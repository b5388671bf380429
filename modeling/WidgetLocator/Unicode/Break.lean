namespace WidgetLocator

/-- The ranges of the value Control of Grapheme_Cluster_Break. -/
def graphemeBreakControlRanges : List String := [
  "0-9 b-c e-1f 7f-9f ad 61c 180e 200b 200e-200f 2028-202e 2060-206f feff fff0-fffb 13430-1343f",
  "1bca0-1bca3 1d173-1d17a e0000-e001f e0080-e00ff e01f0-e0fff"]

def graphemeBreakPrependRanges : List String := [
  "600-605 6dd 70f 890-891 8e2 d4e 110bd 110cd 111c2-111c3 1193f 11941 11a3a 11a84-11a89 11d46",
  "11f02"]

/-- The ranges at which the value SpacingMark of Grapheme_Cluster_Break differs from its base, a
property that it is near to. -/
def graphemeBreakSpacingMarkDifferences : List String := [
  "9be 9d7 b3e b57 bbe bd7 cc2 cd5-cd6 d3e d57 dcf ddf e33 eb3 102b-102c 1038 1062-1064",
  "1067-106d 1083 1087-108c 108f 109a-109c 1a61 1a63-1a64 1b35 302e-302f aa7b aa7d 1133e 11357",
  "114b0 114bd 115af 11720-11721 11930 1d165 1d16e-1d172"]

def wordBreakALetterDifferences : List String := [
  "2c2-2c5 2d2-2d7 2de-2df 2e5-2eb 2ed 2ef-2ff 345 55a-55c 55e 58a 5b0-5bd 5bf 5c1-5c2 5c4-5c5",
  "5c7 5d0-5ea 5ef-5f3 610-61a 64b-657 659-65f 670 6d6-6dc 6e1-6e4 6e7-6e8 6ed 711 730-73f",
  "7a6-7b0 816-817 81b-823 825-827 829-82c 8d4-8df 8e3-8e9 8f0-903 93a-93b 93e-94c 94e-94f",
  "955-957 962-963 981-983 9be-9c4 9c7-9c8 9cb-9cc 9d7 9e2-9e3 a01-a03 a3e-a42 a47-a48 a4b-a4c",
  "a51 a70-a71 a75 a81-a83 abe-ac5 ac7-ac9 acb-acc ae2-ae3 afa-afc b01-b03 b3e-b44 b47-b48",
  "b4b-b4c b56-b57 b62-b63 b82 bbe-bc2 bc6-bc8 bca-bcc bd7 c00-c04 c3e-c44 c46-c48 c4a-c4c",
  "c55-c56 c62-c63 c81-c83 cbe-cc4 cc6-cc8 cca-ccc cd5-cd6 ce2-ce3 cf3 d00-d03 d3e-d44 d46-d48",
  "d4a-d4c d57 d62-d63 d81-d83 dcf-dd4 dd6 dd8-ddf df2-df3 e01-e3a e40-e46 e4d e81-e82 e84",
  "e86-e8a e8c-ea3 ea5 ea7-eb9 ebb-ebd ec0-ec4 ec6 ecd edc-edf f71-f83 f8d-f97 f99-fbc",
  "1000-1036 1038 103b-103f 1050-108f 109a-109d 1712-1713 1732-1733 1752-1753 1772-1773",
  "1780-17b3 17b6-17c8 17d7 17dc 1885-1886 18a9 1920-192b 1930-1938 1950-196d 1970-1974",
  "1980-19ab 19b0-19c9 1a17-1a1b 1a20-1a5e 1a61-1a74 1aa7 1abf-1ac0 1acc-1ace 1b00-1b04",
  "1b35-1b43 1b80-1b82 1ba1-1ba9 1bac-1bad 1be7-1bf1 1c24-1c36 1de7-1df4 2de0-2dff 3006-3007",
  "3021-3029 3031-3035 3038-303a 3041-3096 309d-309f 30a1-30fa 30fc-30ff 31f0-31ff 3400-4dbf",
  "4e00-9fff a674-a67b a69e-a69f a708-a716 a720-a721 a789-a78a a802 a80b a823-a827 a880-a881",
  "a8b4-a8c3 a8c5 a8ff a926-a92a a947-a952 a980-a983 a9b4-a9bf a9e0-a9ef a9fa-a9fe aa29-aa36",
  "aa43 aa4c-aa4d aa60-aa76 aa7a-aabe aac0 aac2 aadb-aadd aaeb-aaef aaf5 ab5b abe3-abea",
  "f900-fa6d fa70-fad9 fb1d-fb28 fb2a-fb36 fb38-fb3c fb3e fb40-fb41 fb43-fb44 fb46-fb4f",
  "ff66-ff9f 10376-1037a 10a01-10a03 10a05-10a06 10a0c-10a0f 10d24-10d27 10eab-10eac",
  "11000-11002 11038-11045 11073-11074 11080-11082 110b0-110b8 110c2 11100-11102 11127-11132",
  "11145-11146 11180-11182 111b3-111bf 111ce-111cf 1122c-11234 11237 1123e 11241 112df-112e8",
  "11300-11303 1133e-11344 11347-11348 1134b-1134c 11357 11362-11363 11435-11441 11443-11445",
  "114b0-114c1 115af-115b5 115b8-115be 115dc-115dd 11630-1163e 11640 116ab-116b5 11700-1171a",
  "1171d-1172a 11740-11746 1182c-11838 11930-11935 11937-11938 1193b-1193c 11940 11942",
  "119d1-119d7 119da-119df 119e4 11a01-11a0a 11a35-11a39 11a3b-11a3e 11a51-11a5b 11a8a-11a97",
  "11c2f-11c36 11c38-11c3e 11c92-11ca7 11ca9-11cb6 11d31-11d36 11d3a 11d3c-11d3d 11d3f-11d41",
  "11d43 11d47 11d8a-11d8e 11d90-11d91 11d93-11d96 11ef3-11ef6 11f00-11f01 11f03 11f34-11f3a",
  "11f3e-11f40 16f4f 16f51-16f87 16f8f-16f92 16ff0-16ff1 17000-187f7 18800-18cd5 18d00-18d08",
  "1aff0-1aff3 1aff5-1affb 1affd-1affe 1b000-1b122 1b132 1b150-1b152 1b155 1b164-1b167",
  "1b170-1b2fb 1bc9e 1e000-1e006 1e008-1e018 1e01b-1e021 1e023-1e024 1e026-1e02a 1e08f 1e947",
  "20000-2a6df 2a700-2b739 2b740-2b81d 2b820-2cea1 2ceb0-2ebe0 2f800-2fa1d 30000-3134a",
  "31350-323af"]

def wordBreakExtendDifferences : List String := [
  "1f3fb-1f3ff"]

def wordBreakExtendNumLetRanges : List String := [
  "5f 202f 203f-2040 2054 fe33-fe34 fe4d-fe4f ff3f"]

def wordBreakFormatDifferences : List String := [
  "200b-200d e0020-e007f"]

def wordBreakHebrewLetterRanges : List String := [
  "5d0-5ea 5ef-5f2 fb1d fb1f-fb28 fb2a-fb36 fb38-fb3c fb3e fb40-fb41 fb43-fb44 fb46-fb4f"]

def wordBreakKatakanaRanges : List String := [
  "3031-3035 309b-309c 30a0-30fa 30fc-30ff 31f0-31ff 32d0-32fe 3300-3357 ff66-ff9d 1aff0-1aff3",
  "1aff5-1affb 1affd-1affe 1b000 1b120-1b122 1b155 1b164-1b167"]

def wordBreakMidLetterRanges : List String := [
  "3a b7 387 55f 5f4 2027 fe13 fe55 ff1a"]

def wordBreakMidNumRanges : List String := [
  "2c 3b 37e 589 60c-60d 66c 7f8 2044 fe10 fe14 fe50 fe54 ff0c ff1b"]

def wordBreakMidNumLetRanges : List String := [
  "2e 2018-2019 2024 fe52 ff07 ff0e"]

def wordBreakNewlineRanges : List String := [
  "b-c 85 2028-2029"]

def wordBreakNumericDifferences : List String := [
  "66b"]

def wordBreakWSegSpaceRanges : List String := [
  "20 1680 2000-2006 2008-200a 205f 3000"]

def sentenceBreakATermRanges : List String := [
  "2e 2024 fe52 ff0e"]

def sentenceBreakCloseRanges : List String := [
  "22 27-29 5b 5d 7b 7d ab bb f3a-f3d 169b-169c 2018-201f 2039-203a 2045-2046 207d-207e",
  "208d-208e 2308-230b 2329-232a 275b-2760 2768-2775 27c5-27c6 27e6-27ef 2983-2998 29d8-29db",
  "29fc-29fd 2e00-2e0d 2e1c-2e1d 2e20-2e29 2e42 2e55-2e5c 3008-3011 3014-301b 301d-301f",
  "fd3e-fd3f fe17-fe18 fe35-fe44 fe47-fe48 fe59-fe5e ff08-ff09 ff3b ff3d ff5b ff5d ff5f-ff60",
  "ff62-ff63 1f676-1f678"]

def sentenceBreakExtendDifferences : List String := [
  "200d"]

def sentenceBreakFormatDifferences : List String := [
  "200c-200d e0020-e007f"]

def sentenceBreakLowerDifferences : List String := [
  "345 10d0-10fa 10fd-10ff"]

def sentenceBreakNumericDifferences : List String := [
  "66b-66c"]

def sentenceBreakOLetterDifferences : List String := [
  "1c5 1c8 1cb 1f2 5b0-5bd 5bf 5c1-5c2 5c4-5c5 5c7 5f3 610-61a 64b-657 659-65f 670 6d6-6dc",
  "6e1-6e4 6e7-6e8 6ed 711 730-73f 7a6-7b0 816-817 81b-823 825-827 829-82c 8d4-8df 8e3-8e9",
  "8f0-903 93a-93b 93e-94c 94e-94f 955-957 962-963 981-983 9be-9c4 9c7-9c8 9cb-9cc 9d7 9e2-9e3",
  "a01-a03 a3e-a42 a47-a48 a4b-a4c a51 a70-a71 a75 a81-a83 abe-ac5 ac7-ac9 acb-acc ae2-ae3",
  "afa-afc b01-b03 b3e-b44 b47-b48 b4b-b4c b56-b57 b62-b63 b82 bbe-bc2 bc6-bc8 bca-bcc bd7",
  "c00-c04 c3e-c44 c46-c48 c4a-c4c c55-c56 c62-c63 c81-c83 cbe-cc4 cc6-cc8 cca-ccc cd5-cd6",
  "ce2-ce3 cf3 d00-d03 d3e-d44 d46-d48 d4a-d4c d57 d62-d63 d81-d83 dcf-dd4 dd6 dd8-ddf df2-df3",
  "e31 e34-e3a e4d eb1 eb4-eb9 ebb-ebc ecd f71-f83 f8d-f97 f99-fbc 102b-1036 1038 103b-103e",
  "1056-1059 105e-1060 1062-1064 1067-106d 1071-1074 1082-108d 108f 109a-109d 10d0-10fa",
  "10fd-10ff 1712-1713 1732-1733 1752-1753 1772-1773 17b6-17c8 1885-1886 18a9 1920-192b",
  "1930-1938 1a17-1a1b 1a55-1a5e 1a61-1a74 1abf-1ac0 1acc-1ace 1b00-1b04 1b35-1b43 1b80-1b82",
  "1ba1-1ba9 1bac-1bad 1be7-1bf1 1c24-1c36 1c90-1cba 1cbd-1cbf 1de7-1df4 1f88-1f8f 1f98-1f9f",
  "1fa8-1faf 1fbc 1fcc 1ffc 2de0-2dff a674-a67b a69e-a69f a802 a80b a823-a827 a880-a881",
  "a8b4-a8c3 a8c5 a8ff a926-a92a a947-a952 a980-a983 a9b4-a9bf a9e5 aa29-aa36 aa43 aa4c-aa4d",
  "aa7b-aa7d aab0 aab2-aab4 aab7-aab8 aabe aaeb-aaef aaf5 abe3-abea fb1e ff9e-ff9f 10376-1037a",
  "10a01-10a03 10a05-10a06 10a0c-10a0f 10d24-10d27 10eab-10eac 11000-11002 11038-11045",
  "11073-11074 11080-11082 110b0-110b8 110c2 11100-11102 11127-11132 11145-11146 11180-11182",
  "111b3-111bf 111ce-111cf 1122c-11234 11237 1123e 11241 112df-112e8 11300-11303 1133e-11344",
  "11347-11348 1134b-1134c 11357 11362-11363 11435-11441 11443-11445 114b0-114c1 115af-115b5",
  "115b8-115be 115dc-115dd 11630-1163e 11640 116ab-116b5 1171d-1172a 1182c-11838 11930-11935",
  "11937-11938 1193b-1193c 11940 11942 119d1-119d7 119da-119df 119e4 11a01-11a0a 11a35-11a39",
  "11a3b-11a3e 11a51-11a5b 11a8a-11a97 11c2f-11c36 11c38-11c3e 11c92-11ca7 11ca9-11cb6",
  "11d31-11d36 11d3a 11d3c-11d3d 11d3f-11d41 11d43 11d47 11d8a-11d8e 11d90-11d91 11d93-11d96",
  "11ef3-11ef6 11f00-11f01 11f03 11f34-11f3a 11f3e-11f40 16f4f 16f51-16f87 16f8f-16f92",
  "16ff0-16ff1 1bc9e 1e000-1e006 1e008-1e018 1e01b-1e021 1e023-1e024 1e026-1e02a 1e08f 1e947"]

def sentenceBreakSContinueRanges : List String := [
  "2c-2d 3a 55d 60c-60d 7f8 1802 1808 2013-2014 3001 fe10-fe11 fe13 fe31-fe32 fe50-fe51 fe55",
  "fe58 fe63 ff0c-ff0d ff1a ff64"]

def sentenceBreakSTermDifferences : List String := [
  "2e fe52 ff0e"]

def sentenceBreakSpRanges : List String := [
  "9 b-c 20 a0 1680 2000-200a 202f 205f 3000"]

def sentenceBreakUpperDifferences : List String := [
  "1c5 1c8 1cb 1f2 1c90-1cba 1cbd-1cbf 1f88-1f8f 1f98-1f9f 1fa8-1faf 1fbc 1fcc 1ffc"]

end WidgetLocator
