namespace WidgetLocator

/-- The values of Age in the order of the versions: the number of each, then its name. -/
def ageNames : List (List String) := [
  ["1.1", "V1_1"],
  ["2.0", "V2_0"],
  ["2.1", "V2_1"],
  ["3.0", "V3_0"],
  ["3.1", "V3_1"],
  ["3.2", "V3_2"],
  ["4.0", "V4_0"],
  ["4.1", "V4_1"],
  ["5.0", "V5_0"],
  ["5.1", "V5_1"],
  ["5.2", "V5_2"],
  ["6.0", "V6_0"],
  ["6.1", "V6_1"],
  ["6.2", "V6_2"],
  ["6.3", "V6_3"],
  ["7.0", "V7_0"],
  ["8.0", "V8_0"],
  ["9.0", "V9_0"],
  ["10.0", "V10_0"],
  ["11.0", "V11_0"],
  ["12.0", "V12_0"],
  ["12.1", "V12_1"],
  ["13.0", "V13_0"],
  ["14.0", "V14_0"],
  ["15.0", "V15_0"]]

/-- The letters that stand for the versions, in the same order. -/
def ageLetters : List Char :=
  "ghijklmnopqrstuvwxyzGHIJK".toList

/-- The runs of Age: where each starts, and a letter for its version, or a hyphen where no
version has it. The letters are those of `ageLetters`. -/
def ageRuns : List String := [
  "0g 1f6j 1fag 218j 220l 221m 222j 234m 237n 242o 250g 2a9j 2aem 2b0g 2dfj 2e0g 2eaj 2efm 300g",
  "346j 34fl 350m 358n 35dm 360g 362j 363l 370p 374g 376p 378- 37ag 37bo 37eg 37fv 380- 384g",
  "38b- 38cg 38d- 38eg 3a2- 3a3g 3cfp 3d0g 3d7j 3d8l 3dag 3dbj 3dcg 3ddj 3deg 3dfj 3e0g 3e1j",
  "3e2g 3f4k 3f6l 3f7m 3fcn 400j 401g 40dj 40eg 450j 451g 45dj 45eg 487p 488j 48al 48cj 490g",
  "4c5l 4c7g 4c9l 4cbg 4cdl 4cfo 4d0g 4ecj 4eeg 4f6n 4f8g 4fao 500l 510o 514p 524q 526r 528v",
  "530- 531g 557- 559g 560z 561g 588z 589g 58aj 58b- 58dv 58fs 590- 591h 5a2n 5a3h 5b0g 5bao",
  "5bbg 5c4h 5c5n 5c8- 5d0g 5eb- 5efz 5f0g 5f5- 600m 604s 605v 606p 60bn 60cg 60dm 616p 61bg",
  "61cu 61dJ 61en 61fg 620r 621g 63bp 640g 653j 656m 659n 65fr 660g 66el 670g 6b8j 6bag 6bfj",
  "6c0g 6cfj 6d0g 6eem 6f0g 6faj 6ffm 700j 70e- 70fj 72dm 730j 74b- 74dm 750n 76ep 780j 7b1l",
  "7b2- 7c0o 7fb- 7fdz 800q 82e- 830q 83f- 840r 85c- 85er 85f- 860y 86b- 870J 88f- 890J 892-",
  "898J 8a0s 8a1v 8a2s 8adv 8b3w 8b5J 8b6x 8beI 8c8J 8d3z 8d4x 8e3w 8e4s 8ffv 900q 901g 904m",
  "905g 93ar 93cg 94eq 94fr 950g 955q 956r 958g 971p 973r 978v 979q 97bo 97dn 97eo 980v 981g",
  "984- 985g 98d- 98fg 991- 993g 9a9- 9aag 9b1- 9b2g 9b3- 9b6g 9ba- 9bcg 9bdm 9beg 9c5- 9c7g",
  "9c9- 9cbg 9cen 9cf- 9d7g 9d8- 9dcg 9de- 9dfg 9e4- 9e6g 9fbq 9fcy 9fez 9ff- a01m a02g a03m",
  "a04- a05g a0b- a0fg a11- a13g a29- a2ag a31- a32g a34- a35g a37- a38g a3a- a3cg a3d- a3eg",
  "a43- a47g a49- a4bg a4e- a51p a52- a59g a5d- a5eg a5f- a66g a75p a76z a77- a81g a84- a85g",
  "a8cm a8dg a8e- a8fg a92- a93g aa9- aaag ab1- ab2g ab4- ab5g aba- abcg ac6- ac7g aca- acbg",
  "ace- ad0g ad1- ae0g ae1m ae4- ae6g af0s af1m af2- af9w afay b00- b01g b04- b05g b0d- b0fg",
  "b11- b13g b29- b2ag b31- b32g b34- b35m b36g b3a- b3cg b44p b45- b47g b49- b4bg b4e- b55I",
  "b56g b58- b5cg b5e- b5fg b62p b64- b66g b71m b72r b78- b82g b84- b85g b8b- b8eg b91- b92g",
  "b96- b99g b9b- b9cg b9d- b9eg ba0- ba3g ba5- ba8g bab- baeg bb6n bb7g bba- bbeg bc3- bc6g",
  "bc9- bcag bce- bd0p bd1- bd7g bd8- be6n be7g bf3m bfb- c00v c01g c04z c05g c0d- c0eg c11-",
  "c12g c29- c2ag c34v c35g c3a- c3cJ c3dp c3eg c45- c46g c49- c4ag c4e- c55g c57- c58p c5aw",
  "c5b- c5dJ c5e- c60g c62p c64- c66g c70- c77G c78p c80x c81v c82g c84z c85g c8d- c8eg c91-",
  "c92g ca9- caag cb4- cb5g cba- cbcm cbeg cc5- cc6g cc9- ccag cce- cd5g cd7- cddJ cdeg cdf-",
  "ce0g ce2o ce4- ce6g cf0- cf1o cf3K cf4- d00y d01v d02g d04I d05g d0d- d0eg d11- d12g d29r",
  "d2ag d3ar d3by d3dp d3eg d44p d45- d46g d49- d4ag d4er d4fx d50- d54x d57g d58x d5fw d60g",
  "d62p d64- d66g d70p d76x d79p d80- d81I d82j d84- d85j d97- d9aj db2- db3j dbc- dbdj dbe-",
  "dc0j dc7- dcaj dcb- dcfj dd5- dd6j dd7- dd8j de0- de6v df0- df2j df5- e01g e3b- e3fg e5c-",
  "e81g e83- e84g e85- e86G e87g e89G e8ag e8b- e8cG e8dg e8eG e94g e98G e99g ea0G ea1g ea4-",
  "ea5g ea6- ea7g ea8G eaag eacG eadg ebaG ebbg ebe- ec0g ec5- ec6g ec7- ec8g eceK ecf- ed0g",
  "eda- edcg edes ee0- f00h f48- f49h f6aj f6bp f6d- f71h f8cr f90h f96j f97h f98- f99h faej",
  "fb1h fb8j fb9h fbaj fbd- fbej fcd- fcep fcfj fd0n fd2p fd5q fd9r fdb- 1000j 1022p 1023j",
  "1028p 1029j 102bp 102cj 1033p 1036j 103ap 1040j 105ap 109aq 109ep 10a0g 10c6- 10c7s 10c8-",
  "10cds 10ce- 10d0g 10f7l 10f9n 10fbg 10fcn 10fds 1100g 115aq 115fg 11a3q 11a8g 11faq 1200j",
  "1207n 1208j 1247n 1248j 1249- 124aj 124e- 1250j 1257- 1258j 1259- 125aj 125e- 1260j 1287n",
  "1288j 1289- 128aj 128e- 1290j 12afn 12b0j 12b1- 12b2j 12b6- 12b8j 12bf- 12c0j 12c1- 12c2j",
  "12c6- 12c8j 12cfn 12d0j 12d7- 12d8j 12efn 12f0j 130fn 1310j 1311- 1312j 1316- 1318j 131fn",
  "1320j 1347n 1348j 135b- 135dr 135fn 1361j 137d- 1380n 139a- 13a0j 13f5w 13f6- 13f8w 13fe-",
  "1400q 1401j 1677q 1680j 169d- 16a0j 16f1v 16f9- 1700l 170dJ 170el 1715J 1716- 171fJ 1720l",
  "1737- 1740l 1754- 1760l 176d- 176el 1771- 1772l 1774- 1780j 17ddm 17de- 17e0j 17ea- 17f0m",
  "17fa- 1800j 180fJ 1810j 181a- 1820j 1878z 1879- 1880j 18aap 18ab- 18b0q 18f6- 1900m 191dv",
  "191f- 1920m 192c- 1930m 193c- 1940m 1941- 1944m 196e- 1970m 1975- 1980n 19aaq 19ac- 19b0n",
  "19ca- 19d0n 19daq 19db- 19den 19e0m 1a00n 1a1c- 1a1en 1a20q 1a5f- 1a60q 1a7d- 1a7fq 1a8a-",
  "1a90q 1a9a- 1aa0q 1aae- 1ab0v 1abfI 1ac1J 1acf- 1b00o 1b4cJ 1b4d- 1b50o 1b7dJ 1b7f- 1b80p",
  "1babs 1baep 1bbas 1bc0r 1bf4- 1bfcr 1c00p 1c38- 1c3bp 1c4a- 1c4dp 1c80x 1c89- 1c90z 1cbb-",
  "1cbdz 1cc0s 1cc8- 1cd0q 1cf3s 1cf7y 1cf8v 1cfaG 1cfb- 1d00m 1d6cn 1dc4o 1dcbp 1de7v 1df6y",
  "1dfaJ 1dfbx 1dfcr 1dfdq 1dfeo 1e00g 1e9bh 1e9cp 1ea0g 1efap 1f00g 1f16- 1f18g 1f1e- 1f20g",
  "1f46- 1f48g 1f4e- 1f50g 1f58- 1f59g 1f5a- 1f5bg 1f5c- 1f5dg 1f5e- 1f5fg 1f7e- 1f80g 1fb5-",
  "1fb6g 1fc5- 1fc6g 1fd4- 1fd6g 1fdc- 1fddg 1ff0- 1ff2g 1ff5- 1ff6g 1fff- 2000g 202fj 2030g",
  "2047l 2048j 204el 2053m 2055n 2057l 2058n 205fl 2064p 2065- 2066u 206ag 2071l 2072- 2074g",
  "208f- 2090n 2095r 209d- 20a0g 20abh 20aci 20adj 20b0l 20b2n 20b6q 20b9r 20bat 20bbv 20bew",
  "20bfy 20c0J 20c1- 20d0g 20e2j 20e4l 20ebn 20eco 20f0p 20f1- 2100g 2139j 213bm 213cn 213dl",
  "214cn 214do 214fp 2150q 2153g 2183j 2184o 2185p 2189q 218aw 218c- 2190g 21ebj 21f4l 2200g",
  "22f2l 2300g 2301j 2302g 237bj 237cl 237dj 239bl 23cfm 23d1n 23dco 23e8q 23e9r 23f4v 23fbx",
  "23ffy 2400g 2425j 2427- 2440g 244b- 2460g 24ebl 24ffm 2500g 2596l 25a0g 25f0j 25f8l 2600g",
  "2614m 2616l 2618n 2619j 261ag 2670j 2672l 267en 2680l 268am 2692n 269dp 269eq 26a0m 26a2n",
  "26b2o 26b3p 26bdq 26c0p 26c4q 26cer 26cfq 26e2r 26e3q 26e4r 26e8q 2700v 2701g 2705r 2706g",
  "270ar 270cg 2728r 2729g 274cr 274dg 274er 274fg 2753r 2756g 2757q 2758g 275fr 2761g 2768l",
  "2776g 2795r 2798g 27b0r 27b1g 27bfr 27c0n 27c7o 27cbs 27ccp 27cds 27cer 27d0l 27ecp 27f0l",
  "2800j 2900l 2b00m 2b0en 2b14o 2b1bp 2b20o 2b24p 2b4dv 2b50p 2b55q 2b5av 2b74- 2b76v 2b96-",
  "2b97I 2b98v 2bbaz 2bbdv 2bc9G 2bcav 2bd2y 2bd3z 2becw 2bf0z 2bffG 2c00n 2c2fJ 2c30n 2c5fJ",
  "2c60o 2c6dp 2c70q 2c71p 2c74o 2c78p 2c7eq 2c80n 2cebq 2cf2s 2cf4- 2cf9n 2d26- 2d27s 2d28-",
  "2d2ds 2d2e- 2d30n 2d66s 2d68- 2d6fn 2d70r 2d71- 2d7fr 2d80n 2d97- 2da0n 2da7- 2da8n 2daf-",
  "2db0n 2db7- 2db8n 2dbf- 2dc0n 2dc7- 2dc8n 2dcf- 2dd0n 2dd7- 2dd8n 2ddf- 2de0p 2e00n 2e18p",
  "2e1cn 2e1ep 2e31q 2e32s 2e3cv 2e43x 2e45y 2e4az 2e4fG 2e50I 2e53J 2e5e- 2e80j 2e9a- 2e9bj",
  "2ef4- 2f00j 2fd6- 2ff0j 2ffc- 3000g 3038j 303bl 303ej 303fg 3040- 3041g 3095l 3097- 3099g",
  "309fl 30a1g 30ffl 3100- 3105g 312dp 312ey 312fz 3130- 3131g 318f- 3190g 31a0j 31b8r 31bbI",
  "31c0n 31d0p 31e4- 31f0l 3200g 321dm 321f- 3220g 3244q 3250m 3251l 3260g 327cm 327en 327fg",
  "32b1l 32c0g 32ccm 32d0g 32ffH 3300g 3377m 337bg 33dem 33e0g 33ffm 3400j 4db6I 4dc0m 4e00g",
  "9fa6n 9fbcp 9fc4q 9fccs 9fcdw 9fd6y 9febz 9ff0I 9ffdJ a000j a48d- a490j a4a2l a4a4j a4b4l",
  "a4b5j a4c1l a4c2j a4c5l a4c6j a4c7- a4d0q a500p a62c- a640p a660r a662p a674s a67cp a698v",
  "a69ew a69fs a6a0q a6f8- a700n a717o a71bp a720o a722p a78dr a78fw a790r a792s a794v a7a0r",
  "a7aas a7abv a7aex a7afz a7b0v a7b2w a7b8z a7baG a7c0J a7c2G a7c7I a7cb- a7d0J a7d2- a7d3J",
  "a7d4- a7d5J a7da- a7f2J a7f5I a7f7v a7f8s a7far a7fbp a800n a82cI a82d- a830q a83a- a840o",
  "a878- a880p a8c5x a8c6- a8cep a8da- a8e0q a8fcw a8fez a900p a954- a95fp a960q a97d- a980q",
  "a9ce- a9cfq a9da- a9deq a9e0v a9ff- aa00p aa37- aa40p aa4e- aa50p aa5a- aa5cp aa60q aa7cv",
  "aa80q aac3- aadbq aae0s aaf7- ab01r ab07- ab09r ab0f- ab11r ab17- ab20r ab27- ab28r ab2f-",
  "ab30v ab60w ab64v ab66G ab68I ab6c- ab70w abc0q abee- abf0q abfa- ac00h d7a4- d7b0q d7c7-",
  "d7cbq d7fc- d800h e000g fa2es fa30l fa6bq fa6e- fa70n fada- fb00g fb07- fb13g fb18- fb1dj",
  "fb1eg fb37- fb38g fb3d- fb3eg fb3f- fb40g fb42- fb43g fb45- fb46g fbb2r fbc2J fbc3- fbd3g",
  "fd40J fd50g fd90- fd92g fdc8- fdcfJ fdd0k fdf0g fdfcl fdfdm fdfeJ fe00l fe10n fe1a- fe20g",
  "fe24p fe27v fe2ew fe30g fe45l fe47m fe49g fe53- fe54g fe67- fe68g fe6c- fe70g fe73l fe74g",
  "fe75- fe76g fefd- feffg ff00- ff01g ff5fl ff61g ffbf- ffc2g ffc8- ffcag ffd0- ffd2g ffd8-",
  "ffdag ffdd- ffe0g ffe7- ffe8g ffef- fff9j fffci fffdg 10000m 1000c- 1000dm 10027- 10028m",
  "1003b- 1003cm 1003e- 1003fm 1004e- 10050m 1005e- 10080m 100fb- 10100m 10103- 10107m 10134-",
  "10137m 10140n 1018bv 1018dx 1018f- 10190p 1019cI 1019d- 101a0v 101a1- 101d0p 101fe- 10280p",
  "1029d- 102a0p 102d1- 102e0v 102fc- 10300k 1031fv 10320k 10324- 1032dy 10330k 1034b- 10350v",
  "1037b- 10380m 1039e- 1039fm 103a0n 103c4- 103c8n 103d6- 10400k 10426m 10428k 1044em 1049e-",
  "104a0m 104aa- 104b0x 104d4- 104d8x 104fc- 10500v 10528- 10530v 10564- 1056fv 10570J 1057b-",
  "1057cJ 1058b- 1058cJ 10593- 10594J 10596- 10597J 105a2- 105a3J 105b2- 105b3J 105ba- 105bbJ",
  "105bd- 10600v 10737- 10740v 10756- 10760v 10768- 10780J 10786- 10787J 107b1- 107b2J 107bb-",
  "10800m 10806- 10808m 10809- 1080am 10836- 10837m 10839- 1083cm 1083d- 1083fm 10840q 10856-",
  "10857q 10860v 1089f- 108a7v 108b0- 108e0w 108f3- 108f4w 108f6- 108fbw 10900o 1091aq 1091c-",
  "1091fo 10920p 1093a- 1093fp 10940- 10980s 109b8- 109bcw 109bes 109c0w 109d0- 109d2w 10a00n",
  "10a04- 10a05n 10a07- 10a0cn 10a14- 10a15n 10a18- 10a19n 10a34z 10a36- 10a38n 10a3b- 10a3fn",
  "10a48z 10a49- 10a50n 10a59- 10a60q 10a80v 10aa0- 10ac0v 10ae7- 10aebv 10af7- 10b00q 10b36-",
  "10b39q 10b56- 10b58q 10b73- 10b78q 10b80v 10b92- 10b99v 10b9d- 10ba9v 10bb0- 10c00q 10c49-",
  "10c80w 10cb3- 10cc0w 10cf3- 10cfaw 10d00z 10d28- 10d30z 10d3a- 10e60q 10e7f- 10e80I 10eaa-",
  "10eabI 10eae- 10eb0I 10eb2- 10efdK 10f00z 10f28- 10f30z 10f5a- 10f70J 10f8a- 10fb0I 10fcc-",
  "10fe0G 10ff7- 11000r 1104e- 11052r 11070J 11076- 1107fv 11080q 110c2J 110c3- 110cdz 110ce-",
  "110d0s 110e9- 110f0s 110fa- 11100s 11135- 11136s 11144z 11147I 11148- 11150v 11177- 11180s",
  "111c9w 111cdv 111ceI 111d0s 111dav 111dbw 111e0- 111e1v 111f5- 11200v 11212- 11213v 1123ex",
  "1123fK 11242- 11280w 11287- 11288w 11289- 1128aw 1128e- 1128fw 1129e- 1129fw 112aa- 112b0v",
  "112eb- 112f0v 112fa- 11300w 11301v 11304- 11305v 1130d- 1130fv 11311- 11313v 11329- 1132av",
  "11331- 11332v 11334- 11335v 1133a- 1133bz 1133cv 11345- 11347v 11349- 1134bv 1134e- 11350w",
  "11351- 11357v 11358- 1135dv 11364- 11366v 1136d- 11370v 11375- 11400x 1145aI 1145bx 1145c-",
  "1145dx 1145ez 1145fG 11460I 11462- 11480v 114c8- 114d0v 114da- 11580v 115b6- 115b8v 115caw",
  "115de- 11600v 11645- 11650v 1165a- 11660x 1166d- 11680s 116b8G 116b9J 116ba- 116c0s 116ca-",
  "11700w 1171az 1171b- 1171dw 1172c- 11730w 11740J 11747- 11800z 1183c- 118a0v 118f3- 118ffv",
  "11900I 11907- 11909I 1190a- 1190cI 11914- 11915I 11917- 11918I 11936- 11937I 11939- 1193bI",
  "11947- 11950I 1195a- 119a0G 119a8- 119aaG 119d8- 119daG 119e5- 11a00y 11a48- 11a50y 11a84G",
  "11a86y 11a9dz 11a9ey 11aa3- 11ab0J 11ac0v 11af9- 11b00K 11b0a- 11c00x 11c09- 11c0ax 11c37-",
  "11c38x 11c46- 11c50x 11c6d- 11c70x 11c90- 11c92x 11ca8- 11ca9x 11cb7- 11d00y 11d07- 11d08y",
  "11d0a- 11d0by 11d37- 11d3ay 11d3b- 11d3cy 11d3e- 11d3fy 11d48- 11d50y 11d5a- 11d60z 11d66-",
  "11d67z 11d69- 11d6az 11d8f- 11d90z 11d92- 11d93z 11d99- 11da0z 11daa- 11ee0z 11ef9- 11f00K",
  "11f11- 11f12K 11f3b- 11f3eK 11f5a- 11fb0I 11fb1- 11fc0G 11ff2- 11fffG 12000o 1236fv 12399w",
  "1239a- 12400o 12463v 1246f- 12470o 12474v 12475- 12480w 12544- 12f90J 12ff3- 13000q 1342fK",
  "13430G 13439K 13456- 14400w 14647- 16800r 16a39- 16a40v 16a5f- 16a60v 16a6a- 16a6ev 16a70J",
  "16abf- 16ac0J 16aca- 16ad0v 16aee- 16af0v 16af6- 16b00v 16b46- 16b50v 16b5a- 16b5bv 16b62-",
  "16b63v 16b78- 16b7dv 16b90- 16e40z 16e9b- 16f00s 16f45G 16f4b- 16f4fG 16f50s 16f7fG 16f88-",
  "16f8fs 16fa0- 16fe0x 16fe1y 16fe2G 16fe4I 16fe5- 16ff0I 16ff2- 17000x 187edz 187f2G 187f8-",
  "18800x 18af3I 18cd6- 18d00I 18d09- 1aff0J 1aff4- 1aff5J 1affc- 1affdJ 1afff- 1b000r 1b002y",
  "1b11fJ 1b123- 1b132K 1b133- 1b150G 1b153- 1b155K 1b156- 1b164G 1b168- 1b170y 1b2fc- 1bc00v",
  "1bc6b- 1bc70v 1bc7d- 1bc80v 1bc89- 1bc90v 1bc9a- 1bc9cv 1bca4- 1cf00J 1cf2e- 1cf30J 1cf47-",
  "1cf50J 1cfc4- 1d000k 1d0f6- 1d100k 1d127- 1d129p 1d12ak 1d1dew 1d1e9J 1d1eb- 1d200n 1d246-",
  "1d2c0K 1d2d4- 1d2e0z 1d2f4- 1d300m 1d357- 1d360o 1d372z 1d379- 1d400k 1d455- 1d456k 1d49d-",
  "1d49ek 1d4a0- 1d4a2k 1d4a3- 1d4a5k 1d4a7- 1d4a9k 1d4ad- 1d4aek 1d4ba- 1d4bbk 1d4bc- 1d4bdk",
  "1d4c1m 1d4c2k 1d4c4- 1d4c5k 1d506- 1d507k 1d50b- 1d50dk 1d515- 1d516k 1d51d- 1d51ek 1d53a-",
  "1d53bk 1d53f- 1d540k 1d545- 1d546k 1d547- 1d54ak 1d551- 1d552k 1d6a4n 1d6a6- 1d6a8k 1d7cao",
  "1d7cc- 1d7cek 1d800w 1da8c- 1da9bw 1daa0- 1daa1w 1dab0- 1df00J 1df1f- 1df25K 1df2b- 1e000x",
  "1e007- 1e008x 1e019- 1e01bx 1e022- 1e023x 1e025- 1e026x 1e02b- 1e030K 1e06e- 1e08fK 1e090-",
  "1e100G 1e12d- 1e130G 1e13e- 1e140G 1e14a- 1e14eG 1e150- 1e290J 1e2af- 1e2c0G 1e2fa- 1e2ffG",
  "1e300- 1e4d0K 1e4fa- 1e7e0J 1e7e7- 1e7e8J 1e7ec- 1e7edJ 1e7ef- 1e7f0J 1e7ff- 1e800v 1e8c5-",
  "1e8c7v 1e8d7- 1e900x 1e94bG 1e94c- 1e950x 1e95a- 1e95ex 1e960- 1ec71z 1ecb5- 1ed01G 1ed3e-",
  "1ee00s 1ee04- 1ee05s 1ee20- 1ee21s 1ee23- 1ee24s 1ee25- 1ee27s 1ee28- 1ee29s 1ee33- 1ee34s",
  "1ee38- 1ee39s 1ee3a- 1ee3bs 1ee3c- 1ee42s 1ee43- 1ee47s 1ee48- 1ee49s 1ee4a- 1ee4bs 1ee4c-",
  "1ee4ds 1ee50- 1ee51s 1ee53- 1ee54s 1ee55- 1ee57s 1ee58- 1ee59s 1ee5a- 1ee5bs 1ee5c- 1ee5ds",
  "1ee5e- 1ee5fs 1ee60- 1ee61s 1ee63- 1ee64s 1ee65- 1ee67s 1ee6b- 1ee6cs 1ee73- 1ee74s 1ee78-",
  "1ee79s 1ee7d- 1ee7es 1ee7f- 1ee80s 1ee8a- 1ee8bs 1ee9c- 1eea1s 1eea4- 1eea5s 1eeaa- 1eeabs",
  "1eebc- 1eef0s 1eef2- 1f000p 1f02c- 1f030p 1f094- 1f0a0r 1f0af- 1f0b1r 1f0bfv 1f0c0- 1f0c1r",
  "1f0d0- 1f0d1r 1f0e0v 1f0f6- 1f100q 1f10bv 1f10dI 1f110q 1f12fz 1f130r 1f131q 1f132r 1f13dq",
  "1f13er 1f13fq 1f140r 1f142q 1f143r 1f146q 1f147r 1f14aq 1f14fr 1f157q 1f158r 1f15fq 1f160r",
  "1f16as 1f16cG 1f16dI 1f170r 1f179q 1f17ar 1f17bq 1f17dr 1f17fq 1f180r 1f18aq 1f18er 1f190q",
  "1f191r 1f19bx 1f1adI 1f1ae- 1f1e6r 1f200q 1f201r 1f203- 1f210q 1f232r 1f23bx 1f23c- 1f240q",
  "1f249- 1f250r 1f252- 1f260y 1f266- 1f300r 1f321v 1f32dw 1f330r 1f336v 1f337r 1f37dv 1f37ew",
  "1f380r 1f394v 1f3a0r 1f3c5v 1f3c6r 1f3cbv 1f3cfw 1f3d4v 1f3e0r 1f3f1v 1f3f8w 1f400r 1f43fv",
  "1f440r 1f441v 1f442r 1f4f8v 1f4f9r 1f4fdv 1f4ffw 1f500r 1f53ev 1f540s 1f544v 1f54bw 1f550r",
  "1f568v 1f57ax 1f57bv 1f5a4x 1f5a5v 1f5fbr 1f600s 1f601r 1f611s 1f612r 1f615s 1f616r 1f617s",
  "1f618r 1f619s 1f61ar 1f61bs 1f61cr 1f61fs 1f620r 1f626s 1f628r 1f62cs 1f62dr 1f62es 1f630r",
  "1f634s 1f635r 1f641v 1f643w 1f645r 1f650v 1f680r 1f6c6v 1f6d0w 1f6d1x 1f6d3y 1f6d5G 1f6d6I",
  "1f6d8- 1f6dcK 1f6ddJ 1f6e0v 1f6ed- 1f6f0v 1f6f4x 1f6f7y 1f6f9z 1f6faG 1f6fbI 1f6fd- 1f700r",
  "1f774K 1f777- 1f77bK 1f780v 1f7d5z 1f7d9K 1f7da- 1f7e0G 1f7ec- 1f7f0J 1f7f1- 1f800v 1f80c-",
  "1f810v 1f848- 1f850v 1f85a- 1f860v 1f888- 1f890v 1f8ae- 1f8b0I 1f8b2- 1f900y 1f90cI 1f90dG",
  "1f910w 1f919x 1f91fy 1f920x 1f928y 1f930x 1f931y 1f933x 1f93fG 1f940x 1f94cy 1f94dz 1f950x",
  "1f95fy 1f96cz 1f971G 1f972I 1f973z 1f977I 1f979J 1f97az 1f97bG 1f97cz 1f980w 1f985x 1f992y",
  "1f998z 1f9a3I 1f9a5G 1f9abI 1f9aeG 1f9b0z 1f9baG 1f9c0w 1f9c1z 1f9c3G 1f9cbI 1f9ccJ 1f9cdG",
  "1f9d0y 1f9e7z 1fa00G 1fa54- 1fa60z 1fa6e- 1fa70G 1fa74I 1fa75K 1fa78G 1fa7bJ 1fa7d- 1fa80G",
  "1fa83I 1fa87K 1fa89- 1fa90G 1fa96I 1faa9J 1faadK 1fab0I 1fab7J 1fabbK 1fabe- 1fabfK 1fac0I",
  "1fac3J 1fac6- 1faceK 1fad0I 1fad7J 1fadaK 1fadc- 1fae0J 1fae8K 1fae9- 1faf0J 1faf7K 1faf9-",
  "1fb00I 1fb93- 1fb94I 1fbcb- 1fbf0I 1fbfa- 1fffeh 20000k 2a6d7I 2a6deJ 2a6e0- 2a700q 2b735J",
  "2b739K 2b73a- 2b740r 2b81e- 2b820w 2cea2- 2ceb0y 2ebe1- 2f800k 2fa1e- 2fffeh 30000I 3134b-",
  "31350K 323b0- 3fffeh 40000- 4fffeh 50000- 5fffeh 60000- 6fffeh 70000- 7fffeh 80000- 8fffeh",
  "90000- 9fffeh a0000- afffeh b0000- bfffeh c0000- cfffeh d0000- dfffeh e0000- e0001k e0002-",
  "e0020k e0080- e0100m e01f0- efffeh 110000-"]

end WidgetLocator
