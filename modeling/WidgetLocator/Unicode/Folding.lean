namespace WidgetLocator

/-- Simple case folding: a code point, or every code point or every second one of a range, and
where the first of them goes; the others go as far. -/
def foldRuns : List String := [
  "41-5a/1>61 b5>3bc c0-d6/1>e0 d8-de/1>f8 100-12e/2>101 132-136/2>133 139-147/2>13a",
  "14a-176/2>14b 178>ff 179-17d/2>17a 17f>73 181>253 182-184/2>183 186>254 187>188",
  "189-18a/1>256 18b>18c 18e>1dd 18f>259 190>25b 191>192 193>260 194>263 196>269 197>268",
  "198>199 19c>26f 19d>272 19f>275 1a0-1a4/2>1a1 1a6>280 1a7>1a8 1a9>283 1ac>1ad 1ae>288",
  "1af>1b0 1b1-1b2/1>28a 1b3-1b5/2>1b4 1b7>292 1b8>1b9 1bc>1bd 1c4>1c6 1c5>1c6 1c7>1c9 1c8>1c9",
  "1ca>1cc 1cb-1db/2>1cc 1de-1ee/2>1df 1f1>1f3 1f2-1f4/2>1f3 1f6>195 1f7>1bf 1f8-21e/2>1f9",
  "220>19e 222-232/2>223 23a>2c65 23b>23c 23d>19a 23e>2c66 241>242 243>180 244>289 245>28c",
  "246-24e/2>247 345>3b9 370-372/2>371 376>377 37f>3f3 386>3ac 388-38a/1>3ad 38c>3cc",
  "38e-38f/1>3cd 391-3a1/1>3b1 3a3-3ab/1>3c3 3c2>3c3 3cf>3d7 3d0>3b2 3d1>3b8 3d5>3c6 3d6>3c0",
  "3d8-3ee/2>3d9 3f0>3ba 3f1>3c1 3f4>3b8 3f5>3b5 3f7>3f8 3f9>3f2 3fa>3fb 3fd-3ff/1>37b",
  "400-40f/1>450 410-42f/1>430 460-480/2>461 48a-4be/2>48b 4c0>4cf 4c1-4cd/2>4c2 4d0-52e/2>4d1",
  "531-556/1>561 10a0-10c5/1>2d00 10c7>2d27 10cd>2d2d 13f8-13fd/1>13f0 1c80>432 1c81>434",
  "1c82>43e 1c83-1c84/1>441 1c85>442 1c86>44a 1c87>463 1c88>a64b 1c90-1cba/1>10d0",
  "1cbd-1cbf/1>10fd 1e00-1e94/2>1e01 1e9b>1e61 1e9e>df 1ea0-1efe/2>1ea1 1f08-1f0f/1>1f00",
  "1f18-1f1d/1>1f10 1f28-1f2f/1>1f20 1f38-1f3f/1>1f30 1f48-1f4d/1>1f40 1f59-1f5f/2>1f51",
  "1f68-1f6f/1>1f60 1f88-1f8f/1>1f80 1f98-1f9f/1>1f90 1fa8-1faf/1>1fa0 1fb8-1fb9/1>1fb0",
  "1fba-1fbb/1>1f70 1fbc>1fb3 1fbe>3b9 1fc8-1fcb/1>1f72 1fcc>1fc3 1fd8-1fd9/1>1fd0",
  "1fda-1fdb/1>1f76 1fe8-1fe9/1>1fe0 1fea-1feb/1>1f7a 1fec>1fe5 1ff8-1ff9/1>1f78",
  "1ffa-1ffb/1>1f7c 1ffc>1ff3 2126>3c9 212a>6b 212b>e5 2132>214e 2160-216f/1>2170 2183>2184",
  "24b6-24cf/1>24d0 2c00-2c2f/1>2c30 2c60>2c61 2c62>26b 2c63>1d7d 2c64>27d 2c67-2c6b/2>2c68",
  "2c6d>251 2c6e>271 2c6f>250 2c70>252 2c72>2c73 2c75>2c76 2c7e-2c7f/1>23f 2c80-2ce2/2>2c81",
  "2ceb-2ced/2>2cec 2cf2>2cf3 a640-a66c/2>a641 a680-a69a/2>a681 a722-a72e/2>a723",
  "a732-a76e/2>a733 a779-a77b/2>a77a a77d>1d79 a77e-a786/2>a77f a78b>a78c a78d>265",
  "a790-a792/2>a791 a796-a7a8/2>a797 a7aa>266 a7ab>25c a7ac>261 a7ad>26c a7ae>26a a7b0>29e",
  "a7b1>287 a7b2>29d a7b3>ab53 a7b4-a7c2/2>a7b5 a7c4>a794 a7c5>282 a7c6>1d8e a7c7-a7c9/2>a7c8",
  "a7d0>a7d1 a7d6-a7d8/2>a7d7 a7f5>a7f6 ab70-abbf/1>13a0 ff21-ff3a/1>ff41 10400-10427/1>10428",
  "104b0-104d3/1>104d8 10570-1057a/1>10597 1057c-1058a/1>105a3 1058c-10592/1>105b3",
  "10594-10595/1>105bb 10c80-10cb2/1>10cc0 118a0-118bf/1>118c0 16e40-16e5f/1>16e60",
  "1e900-1e921/1>1e922"]

end WidgetLocator
