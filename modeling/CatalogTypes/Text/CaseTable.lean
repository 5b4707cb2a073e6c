/-!
# Tables of letter case

The case mappings of every script.  The single-letter mappings are a flat list of runs of
four numbers: the first and the last code point of the run, the step between two of its members,
and the image of the first; the images of the others follow at the same distances.  Letters whose
mapping is several letters long are listed one by one.
-/

namespace CatalogTypes.Text

/-- Letters with a lowercase form of one letter. -/
def lowerRuns : List Nat :=
  [65, 90, 1, 97, 192, 214, 1, 224, 216, 222, 1, 248, 256, 302, 2, 257, 306, 310, 2, 307, 313,
   327, 2, 314, 330, 374, 2, 331, 376, 376, 1, 255, 377, 381, 2, 378, 385, 385, 1, 595, 386, 388,
   2, 387, 390, 390, 1, 596, 391, 391, 1, 392, 393, 394, 1, 598, 395, 395, 1, 396, 398, 398, 1,
   477, 399, 399, 1, 601, 400, 400, 1, 603, 401, 401, 1, 402, 403, 403, 1, 608, 404, 404, 1, 611,
   406, 406, 1, 617, 407, 407, 1, 616, 408, 408, 1, 409, 412, 412, 1, 623, 413, 413, 1, 626, 415,
   415, 1, 629, 416, 420, 2, 417, 422, 422, 1, 640, 423, 423, 1, 424, 425, 425, 1, 643, 428, 428,
   1, 429, 430, 430, 1, 648, 431, 431, 1, 432, 433, 434, 1, 650, 435, 437, 2, 436, 439, 439, 1,
   658, 440, 440, 1, 441, 444, 444, 1, 445, 452, 452, 1, 454, 453, 453, 1, 454, 455, 455, 1, 457,
   456, 456, 1, 457, 458, 458, 1, 460, 459, 475, 2, 460, 478, 494, 2, 479, 497, 497, 1, 499, 498,
   500, 2, 499, 502, 502, 1, 405, 503, 503, 1, 447, 504, 542, 2, 505, 544, 544, 1, 414, 546, 562,
   2, 547, 570, 570, 1, 11365, 571, 571, 1, 572, 573, 573, 1, 410, 574, 574, 1, 11366, 577, 577,
   1, 578, 579, 579, 1, 384, 580, 580, 1, 649, 581, 581, 1, 652, 582, 590, 2, 583, 880, 882, 2,
   881, 886, 886, 1, 887, 895, 895, 1, 1011, 902, 902, 1, 940, 904, 906, 1, 941, 908, 908, 1, 972,
   910, 911, 1, 973, 913, 929, 1, 945, 931, 939, 1, 963, 975, 975, 1, 983, 984, 1006, 2, 985,
   1012, 1012, 1, 952, 1015, 1015, 1, 1016, 1017, 1017, 1, 1010, 1018, 1018, 1, 1019, 1021, 1023,
   1, 891, 1024, 1039, 1, 1104, 1040, 1071, 1, 1072, 1120, 1152, 2, 1121, 1162, 1214, 2, 1163,
   1216, 1216, 1, 1231, 1217, 1229, 2, 1218, 1232, 1326, 2, 1233, 1329, 1366, 1, 1377, 4256, 4293,
   1, 11520, 4295, 4295, 1, 11559, 4301, 4301, 1, 11565, 5024, 5103, 1, 43888, 5104, 5109, 1,
   5112, 7312, 7354, 1, 4304, 7357, 7359, 1, 4349, 7680, 7828, 2, 7681, 7838, 7838, 1, 223, 7840,
   7934, 2, 7841, 7944, 7951, 1, 7936, 7960, 7965, 1, 7952, 7976, 7983, 1, 7968, 7992, 7999, 1,
   7984, 8008, 8013, 1, 8000, 8025, 8031, 2, 8017, 8040, 8047, 1, 8032, 8072, 8079, 1, 8064, 8088,
   8095, 1, 8080, 8104, 8111, 1, 8096, 8120, 8121, 1, 8112, 8122, 8123, 1, 8048, 8124, 8124, 1,
   8115, 8136, 8139, 1, 8050, 8140, 8140, 1, 8131, 8152, 8153, 1, 8144, 8154, 8155, 1, 8054, 8168,
   8169, 1, 8160, 8170, 8171, 1, 8058, 8172, 8172, 1, 8165, 8184, 8185, 1, 8056, 8186, 8187, 1,
   8060, 8188, 8188, 1, 8179, 8486, 8486, 1, 969, 8490, 8490, 1, 107, 8491, 8491, 1, 229, 8498,
   8498, 1, 8526, 8544, 8559, 1, 8560, 8579, 8579, 1, 8580, 9398, 9423, 1, 9424, 11264, 11311, 1,
   11312, 11360, 11360, 1, 11361, 11362, 11362, 1, 619, 11363, 11363, 1, 7549, 11364, 11364, 1,
   637, 11367, 11371, 2, 11368, 11373, 11373, 1, 593, 11374, 11374, 1, 625, 11375, 11375, 1, 592,
   11376, 11376, 1, 594, 11378, 11378, 1, 11379, 11381, 11381, 1, 11382, 11390, 11391, 1, 575,
   11392, 11490, 2, 11393, 11499, 11501, 2, 11500, 11506, 11506, 1, 11507, 42560, 42604, 2, 42561,
   42624, 42650, 2, 42625, 42786, 42798, 2, 42787, 42802, 42862, 2, 42803, 42873, 42875, 2, 42874,
   42877, 42877, 1, 7545, 42878, 42886, 2, 42879, 42891, 42891, 1, 42892, 42893, 42893, 1, 613,
   42896, 42898, 2, 42897, 42902, 42920, 2, 42903, 42922, 42922, 1, 614, 42923, 42923, 1, 604,
   42924, 42924, 1, 609, 42925, 42925, 1, 620, 42926, 42926, 1, 618, 42928, 42928, 1, 670, 42929,
   42929, 1, 647, 42930, 42930, 1, 669, 42931, 42931, 1, 43859, 42932, 42946, 2, 42933, 42948,
   42948, 1, 42900, 42949, 42949, 1, 642, 42950, 42950, 1, 7566, 42951, 42953, 2, 42952, 42960,
   42960, 1, 42961, 42966, 42968, 2, 42967, 42997, 42997, 1, 42998, 65313, 65338, 1, 65345, 66560,
   66599, 1, 66600, 66736, 66771, 1, 66776, 66928, 66938, 1, 66967, 66940, 66954, 1, 66979, 66956,
   66962, 1, 66995, 66964, 66965, 1, 67003, 68736, 68786, 1, 68800, 71840, 71871, 1, 71872, 93760,
   93791, 1, 93792, 125184, 125217, 1, 125218]

/-- Letters with an uppercase form of one letter. -/
def upperRuns : List Nat :=
  [97, 122, 1, 65, 181, 181, 1, 924, 224, 246, 1, 192, 248, 254, 1, 216, 255, 255, 1, 376, 257,
   303, 2, 256, 305, 305, 1, 73, 307, 311, 2, 306, 314, 328, 2, 313, 331, 375, 2, 330, 378, 382,
   2, 377, 383, 383, 1, 83, 384, 384, 1, 579, 387, 389, 2, 386, 392, 392, 1, 391, 396, 396, 1,
   395, 402, 402, 1, 401, 405, 405, 1, 502, 409, 409, 1, 408, 410, 410, 1, 573, 414, 414, 1, 544,
   417, 421, 2, 416, 424, 424, 1, 423, 429, 429, 1, 428, 432, 432, 1, 431, 436, 438, 2, 435, 441,
   441, 1, 440, 445, 445, 1, 444, 447, 447, 1, 503, 453, 453, 1, 452, 454, 454, 1, 452, 456, 456,
   1, 455, 457, 457, 1, 455, 459, 459, 1, 458, 460, 460, 1, 458, 462, 476, 2, 461, 477, 477, 1,
   398, 479, 495, 2, 478, 498, 498, 1, 497, 499, 499, 1, 497, 501, 501, 1, 500, 505, 543, 2, 504,
   547, 563, 2, 546, 572, 572, 1, 571, 575, 576, 1, 11390, 578, 578, 1, 577, 583, 591, 2, 582,
   592, 592, 1, 11375, 593, 593, 1, 11373, 594, 594, 1, 11376, 595, 595, 1, 385, 596, 596, 1, 390,
   598, 599, 1, 393, 601, 601, 1, 399, 603, 603, 1, 400, 604, 604, 1, 42923, 608, 608, 1, 403,
   609, 609, 1, 42924, 611, 611, 1, 404, 613, 613, 1, 42893, 614, 614, 1, 42922, 616, 616, 1, 407,
   617, 617, 1, 406, 618, 618, 1, 42926, 619, 619, 1, 11362, 620, 620, 1, 42925, 623, 623, 1, 412,
   625, 625, 1, 11374, 626, 626, 1, 413, 629, 629, 1, 415, 637, 637, 1, 11364, 640, 640, 1, 422,
   642, 642, 1, 42949, 643, 643, 1, 425, 647, 647, 1, 42929, 648, 648, 1, 430, 649, 649, 1, 580,
   650, 651, 1, 433, 652, 652, 1, 581, 658, 658, 1, 439, 669, 669, 1, 42930, 670, 670, 1, 42928,
   837, 837, 1, 921, 881, 883, 2, 880, 887, 887, 1, 886, 891, 893, 1, 1021, 940, 940, 1, 902, 941,
   943, 1, 904, 945, 961, 1, 913, 962, 962, 1, 931, 963, 971, 1, 931, 972, 972, 1, 908, 973, 974,
   1, 910, 976, 976, 1, 914, 977, 977, 1, 920, 981, 981, 1, 934, 982, 982, 1, 928, 983, 983, 1,
   975, 985, 1007, 2, 984, 1008, 1008, 1, 922, 1009, 1009, 1, 929, 1010, 1010, 1, 1017, 1011,
   1011, 1, 895, 1013, 1013, 1, 917, 1016, 1016, 1, 1015, 1019, 1019, 1, 1018, 1072, 1103, 1,
   1040, 1104, 1119, 1, 1024, 1121, 1153, 2, 1120, 1163, 1215, 2, 1162, 1218, 1230, 2, 1217, 1231,
   1231, 1, 1216, 1233, 1327, 2, 1232, 1377, 1414, 1, 1329, 4304, 4346, 1, 7312, 4349, 4351, 1,
   7357, 5112, 5117, 1, 5104, 7296, 7296, 1, 1042, 7297, 7297, 1, 1044, 7298, 7298, 1, 1054, 7299,
   7300, 1, 1057, 7301, 7301, 1, 1058, 7302, 7302, 1, 1066, 7303, 7303, 1, 1122, 7304, 7304, 1,
   42570, 7545, 7545, 1, 42877, 7549, 7549, 1, 11363, 7566, 7566, 1, 42950, 7681, 7829, 2, 7680,
   7835, 7835, 1, 7776, 7841, 7935, 2, 7840, 7936, 7943, 1, 7944, 7952, 7957, 1, 7960, 7968, 7975,
   1, 7976, 7984, 7991, 1, 7992, 8000, 8005, 1, 8008, 8017, 8023, 2, 8025, 8032, 8039, 1, 8040,
   8048, 8049, 1, 8122, 8050, 8053, 1, 8136, 8054, 8055, 1, 8154, 8056, 8057, 1, 8184, 8058, 8059,
   1, 8170, 8060, 8061, 1, 8186, 8112, 8113, 1, 8120, 8126, 8126, 1, 921, 8144, 8145, 1, 8152,
   8160, 8161, 1, 8168, 8165, 8165, 1, 8172, 8526, 8526, 1, 8498, 8560, 8575, 1, 8544, 8580, 8580,
   1, 8579, 9424, 9449, 1, 9398, 11312, 11359, 1, 11264, 11361, 11361, 1, 11360, 11365, 11365, 1,
   570, 11366, 11366, 1, 574, 11368, 11372, 2, 11367, 11379, 11379, 1, 11378, 11382, 11382, 1,
   11381, 11393, 11491, 2, 11392, 11500, 11502, 2, 11499, 11507, 11507, 1, 11506, 11520, 11557, 1,
   4256, 11559, 11559, 1, 4295, 11565, 11565, 1, 4301, 42561, 42605, 2, 42560, 42625, 42651, 2,
   42624, 42787, 42799, 2, 42786, 42803, 42863, 2, 42802, 42874, 42876, 2, 42873, 42879, 42887, 2,
   42878, 42892, 42892, 1, 42891, 42897, 42899, 2, 42896, 42900, 42900, 1, 42948, 42903, 42921, 2,
   42902, 42933, 42947, 2, 42932, 42952, 42954, 2, 42951, 42961, 42961, 1, 42960, 42967, 42969, 2,
   42966, 42998, 42998, 1, 42997, 43859, 43859, 1, 42931, 43888, 43967, 1, 5024, 65345, 65370, 1,
   65313, 66600, 66639, 1, 66560, 66776, 66811, 1, 66736, 66967, 66977, 1, 66928, 66979, 66993, 1,
   66940, 66995, 67001, 1, 66956, 67003, 67004, 1, 66964, 68800, 68850, 1, 68736, 71872, 71903, 1,
   71840, 93792, 93823, 1, 93760, 125218, 125251, 1, 125184]

/-- Letters with an uppercase form of several letters. -/
def upperExpansions : List (Nat × List Nat) :=
  [(223, [83, 83]), (329, [700, 78]), (496, [74, 780]), (912, [921, 776, 769]),
   (944, [933, 776, 769]), (1415, [1333, 1362]), (7830, [72, 817]), (7831, [84, 776]),
   (7832, [87, 778]), (7833, [89, 778]), (7834, [65, 702]), (8016, [933, 787]),
   (8018, [933, 787, 768]), (8020, [933, 787, 769]), (8022, [933, 787, 834]), (8064, [7944, 921]),
   (8065, [7945, 921]), (8066, [7946, 921]), (8067, [7947, 921]), (8068, [7948, 921]),
   (8069, [7949, 921]), (8070, [7950, 921]), (8071, [7951, 921]), (8072, [7944, 921]),
   (8073, [7945, 921]), (8074, [7946, 921]), (8075, [7947, 921]), (8076, [7948, 921]),
   (8077, [7949, 921]), (8078, [7950, 921]), (8079, [7951, 921]), (8080, [7976, 921]),
   (8081, [7977, 921]), (8082, [7978, 921]), (8083, [7979, 921]), (8084, [7980, 921]),
   (8085, [7981, 921]), (8086, [7982, 921]), (8087, [7983, 921]), (8088, [7976, 921]),
   (8089, [7977, 921]), (8090, [7978, 921]), (8091, [7979, 921]), (8092, [7980, 921]),
   (8093, [7981, 921]), (8094, [7982, 921]), (8095, [7983, 921]), (8096, [8040, 921]),
   (8097, [8041, 921]), (8098, [8042, 921]), (8099, [8043, 921]), (8100, [8044, 921]),
   (8101, [8045, 921]), (8102, [8046, 921]), (8103, [8047, 921]), (8104, [8040, 921]),
   (8105, [8041, 921]), (8106, [8042, 921]), (8107, [8043, 921]), (8108, [8044, 921]),
   (8109, [8045, 921]), (8110, [8046, 921]), (8111, [8047, 921]), (8114, [8122, 921]),
   (8115, [913, 921]), (8116, [902, 921]), (8118, [913, 834]), (8119, [913, 834, 921]),
   (8124, [913, 921]), (8130, [8138, 921]), (8131, [919, 921]), (8132, [905, 921]),
   (8134, [919, 834]), (8135, [919, 834, 921]), (8140, [919, 921]), (8146, [921, 776, 768]),
   (8147, [921, 776, 769]), (8150, [921, 834]), (8151, [921, 776, 834]), (8162, [933, 776, 768]),
   (8163, [933, 776, 769]), (8164, [929, 787]), (8166, [933, 834]), (8167, [933, 776, 834]),
   (8178, [8186, 921]), (8179, [937, 921]), (8180, [911, 921]), (8182, [937, 834]),
   (8183, [937, 834, 921]), (8188, [937, 921]), (64256, [70, 70]), (64257, [70, 73]),
   (64258, [70, 76]), (64259, [70, 70, 73]), (64260, [70, 70, 76]), (64261, [83, 84]),
   (64262, [83, 84]), (64275, [1348, 1350]), (64276, [1348, 1333]), (64277, [1348, 1339]),
   (64278, [1358, 1350]), (64279, [1348, 1341])]

/-- Letters whose form at the head of a word is not their uppercase form. -/
def titleForms : List (Nat × List Nat) :=
  [(223, [83, 115]), (452, [453]), (453, [453]), (454, [453]), (455, [456]), (456, [456]),
   (457, [456]), (458, [459]), (459, [459]), (460, [459]), (497, [498]), (498, [498]),
   (499, [498]), (1415, [1333, 1410]), (4304, [4304]), (4305, [4305]), (4306, [4306]),
   (4307, [4307]), (4308, [4308]), (4309, [4309]), (4310, [4310]), (4311, [4311]), (4312, [4312]),
   (4313, [4313]), (4314, [4314]), (4315, [4315]), (4316, [4316]), (4317, [4317]), (4318, [4318]),
   (4319, [4319]), (4320, [4320]), (4321, [4321]), (4322, [4322]), (4323, [4323]), (4324, [4324]),
   (4325, [4325]), (4326, [4326]), (4327, [4327]), (4328, [4328]), (4329, [4329]), (4330, [4330]),
   (4331, [4331]), (4332, [4332]), (4333, [4333]), (4334, [4334]), (4335, [4335]), (4336, [4336]),
   (4337, [4337]), (4338, [4338]), (4339, [4339]), (4340, [4340]), (4341, [4341]), (4342, [4342]),
   (4343, [4343]), (4344, [4344]), (4345, [4345]), (4346, [4346]), (4349, [4349]), (4350, [4350]),
   (4351, [4351]), (8064, [8072]), (8065, [8073]), (8066, [8074]), (8067, [8075]), (8068, [8076]),
   (8069, [8077]), (8070, [8078]), (8071, [8079]), (8072, [8072]), (8073, [8073]), (8074, [8074]),
   (8075, [8075]), (8076, [8076]), (8077, [8077]), (8078, [8078]), (8079, [8079]), (8080, [8088]),
   (8081, [8089]), (8082, [8090]), (8083, [8091]), (8084, [8092]), (8085, [8093]), (8086, [8094]),
   (8087, [8095]), (8088, [8088]), (8089, [8089]), (8090, [8090]), (8091, [8091]), (8092, [8092]),
   (8093, [8093]), (8094, [8094]), (8095, [8095]), (8096, [8104]), (8097, [8105]), (8098, [8106]),
   (8099, [8107]), (8100, [8108]), (8101, [8109]), (8102, [8110]), (8103, [8111]), (8104, [8104]),
   (8105, [8105]), (8106, [8106]), (8107, [8107]), (8108, [8108]), (8109, [8109]), (8110, [8110]),
   (8111, [8111]), (8114, [8122, 837]), (8115, [8124]), (8116, [902, 837]),
   (8119, [913, 834, 837]), (8124, [8124]), (8130, [8138, 837]), (8131, [8140]),
   (8132, [905, 837]), (8135, [919, 834, 837]), (8140, [8140]), (8178, [8186, 837]),
   (8179, [8188]), (8180, [911, 837]), (8183, [937, 834, 837]), (8188, [8188]),
   (64256, [70, 102]), (64257, [70, 105]), (64258, [70, 108]), (64259, [70, 102, 105]),
   (64260, [70, 102, 108]), (64261, [83, 116]), (64262, [83, 116]), (64275, [1348, 1398]),
   (64276, [1348, 1381]), (64277, [1348, 1387]), (64278, [1358, 1398]), (64279, [1348, 1389])]

/-- Letters that have case, as alternating ends of half-open spans. -/
def casedSpans : List Nat :=
  [65, 91, 97, 123, 170, 171, 181, 182, 186, 187, 192, 215, 216, 247, 248, 443, 444, 448, 452,
   660, 661, 688, 880, 884, 886, 888, 891, 894, 895, 896, 902, 903, 904, 907, 908, 909, 910, 930,
   931, 1014, 1015, 1154, 1162, 1328, 1329, 1367, 1376, 1417, 4256, 4294, 4295, 4296, 4301, 4302,
   4304, 4347, 4349, 4352, 5024, 5110, 5112, 5118, 7296, 7305, 7312, 7355, 7357, 7360, 7424, 7468,
   7531, 7544, 7545, 7579, 7680, 7958, 7960, 7966, 7968, 8006, 8008, 8014, 8016, 8024, 8025, 8026,
   8027, 8028, 8029, 8030, 8031, 8062, 8064, 8117, 8118, 8125, 8126, 8127, 8130, 8133, 8134, 8141,
   8144, 8148, 8150, 8156, 8160, 8173, 8178, 8181, 8182, 8189, 8450, 8451, 8455, 8456, 8458, 8468,
   8469, 8470, 8473, 8478, 8484, 8485, 8486, 8487, 8488, 8489, 8490, 8494, 8495, 8501, 8505, 8506,
   8508, 8512, 8517, 8522, 8526, 8527, 8544, 8576, 8579, 8581, 9398, 9450, 11264, 11388, 11390,
   11493, 11499, 11503, 11506, 11508, 11520, 11558, 11559, 11560, 11565, 11566, 42560, 42606,
   42624, 42652, 42786, 42864, 42865, 42888, 42891, 42895, 42896, 42955, 42960, 42962, 42963,
   42964, 42965, 42970, 42997, 42999, 43002, 43003, 43824, 43867, 43872, 43881, 43888, 43968,
   64256, 64263, 64275, 64280, 65313, 65339, 65345, 65371, 66560, 66640, 66736, 66772, 66776,
   66812, 66928, 66939, 66940, 66955, 66956, 66963, 66964, 66966, 66967, 66978, 66979, 66994,
   66995, 67002, 67003, 67005, 68736, 68787, 68800, 68851, 71840, 71904, 93760, 93824, 119808,
   119893, 119894, 119965, 119966, 119968, 119970, 119971, 119973, 119975, 119977, 119981, 119982,
   119994, 119995, 119996, 119997, 120004, 120005, 120070, 120071, 120075, 120077, 120085, 120086,
   120093, 120094, 120122, 120123, 120127, 120128, 120133, 120134, 120135, 120138, 120145, 120146,
   120486, 120488, 120513, 120514, 120539, 120540, 120571, 120572, 120597, 120598, 120629, 120630,
   120655, 120656, 120687, 120688, 120713, 120714, 120745, 120746, 120771, 120772, 120780, 122624,
   122634, 122635, 122655, 125184, 125252, 127280, 127306, 127312, 127338, 127344, 127370]

/-- Marks and signs that do not interrupt a word for the choice of a final letter form, as
alternating ends of half-open spans. -/
def transparentSpans : List Nat :=
  [39, 40, 46, 47, 58, 59, 94, 95, 96, 97, 168, 169, 173, 174, 175, 176, 180, 181, 183, 185, 688,
   880, 884, 886, 890, 891, 900, 902, 903, 904, 1155, 1162, 1369, 1370, 1375, 1376, 1425, 1470,
   1471, 1472, 1473, 1475, 1476, 1478, 1479, 1480, 1524, 1525, 1536, 1542, 1552, 1563, 1564, 1565,
   1600, 1601, 1611, 1632, 1648, 1649, 1750, 1758, 1759, 1769, 1770, 1774, 1807, 1808, 1809, 1810,
   1840, 1867, 1958, 1969, 2027, 2038, 2042, 2043, 2045, 2046, 2070, 2094, 2137, 2140, 2184, 2185,
   2192, 2194, 2200, 2208, 2249, 2307, 2362, 2363, 2364, 2365, 2369, 2377, 2381, 2382, 2385, 2392,
   2402, 2404, 2417, 2418, 2433, 2434, 2492, 2493, 2497, 2501, 2509, 2510, 2530, 2532, 2558, 2559,
   2561, 2563, 2620, 2621, 2625, 2627, 2631, 2633, 2635, 2638, 2641, 2642, 2672, 2674, 2677, 2678,
   2689, 2691, 2748, 2749, 2753, 2758, 2759, 2761, 2765, 2766, 2786, 2788, 2810, 2816, 2817, 2818,
   2876, 2877, 2879, 2880, 2881, 2885, 2893, 2894, 2901, 2903, 2914, 2916, 2946, 2947, 3008, 3009,
   3021, 3022, 3072, 3073, 3076, 3077, 3132, 3133, 3134, 3137, 3142, 3145, 3146, 3150, 3157, 3159,
   3170, 3172, 3201, 3202, 3260, 3261, 3263, 3264, 3270, 3271, 3276, 3278, 3298, 3300, 3328, 3330,
   3387, 3389, 3393, 3397, 3405, 3406, 3426, 3428, 3457, 3458, 3530, 3531, 3538, 3541, 3542, 3543,
   3633, 3634, 3636, 3643, 3654, 3663, 3761, 3762, 3764, 3773, 3782, 3783, 3784, 3790, 3864, 3866,
   3893, 3894, 3895, 3896, 3897, 3898, 3953, 3967, 3968, 3973, 3974, 3976, 3981, 3992, 3993, 4029,
   4038, 4039, 4141, 4145, 4146, 4152, 4153, 4155, 4157, 4159, 4184, 4186, 4190, 4193, 4209, 4213,
   4226, 4227, 4229, 4231, 4237, 4238, 4253, 4254, 4348, 4349, 4957, 4960, 5906, 5909, 5938, 5940,
   5970, 5972, 6002, 6004, 6068, 6070, 6071, 6078, 6086, 6087, 6089, 6100, 6103, 6104, 6109, 6110,
   6155, 6160, 6211, 6212, 6277, 6279, 6313, 6314, 6432, 6435, 6439, 6441, 6450, 6451, 6457, 6460,
   6679, 6681, 6683, 6684, 6742, 6743, 6744, 6751, 6752, 6753, 6754, 6755, 6757, 6765, 6771, 6781,
   6783, 6784, 6823, 6824, 6832, 6863, 6912, 6916, 6964, 6965, 6966, 6971, 6972, 6973, 6978, 6979,
   7019, 7028, 7040, 7042, 7074, 7078, 7080, 7082, 7083, 7086, 7142, 7143, 7144, 7146, 7149, 7150,
   7151, 7154, 7212, 7220, 7222, 7224, 7288, 7294, 7376, 7379, 7380, 7393, 7394, 7401, 7405, 7406,
   7412, 7413, 7416, 7418, 7468, 7531, 7544, 7545, 7579, 7680, 8125, 8126, 8127, 8130, 8141, 8144,
   8157, 8160, 8173, 8176, 8189, 8191, 8203, 8208, 8216, 8218, 8228, 8229, 8231, 8232, 8234, 8239,
   8288, 8293, 8294, 8304, 8305, 8306, 8319, 8320, 8336, 8349, 8400, 8433, 11388, 11390, 11503,
   11506, 11631, 11632, 11647, 11648, 11744, 11776, 11823, 11824, 12293, 12294, 12330, 12334,
   12337, 12342, 12347, 12348, 12441, 12447, 12540, 12543, 40981, 40982, 42232, 42238, 42508,
   42509, 42607, 42611, 42612, 42622, 42623, 42624, 42652, 42656, 42736, 42738, 42752, 42786,
   42864, 42865, 42888, 42891, 42994, 42997, 43000, 43002, 43010, 43011, 43014, 43015, 43019,
   43020, 43045, 43047, 43052, 43053, 43204, 43206, 43232, 43250, 43263, 43264, 43302, 43310,
   43335, 43346, 43392, 43395, 43443, 43444, 43446, 43450, 43452, 43454, 43471, 43472, 43493,
   43495, 43561, 43567, 43569, 43571, 43573, 43575, 43587, 43588, 43596, 43597, 43632, 43633,
   43644, 43645, 43696, 43697, 43698, 43701, 43703, 43705, 43710, 43712, 43713, 43714, 43741,
   43742, 43756, 43758, 43763, 43765, 43766, 43767, 43867, 43872, 43881, 43884, 44005, 44006,
   44008, 44009, 44013, 44014, 64286, 64287, 64434, 64451, 65024, 65040, 65043, 65044, 65056,
   65072, 65106, 65107, 65109, 65110, 65279, 65280, 65287, 65288, 65294, 65295, 65306, 65307,
   65342, 65343, 65344, 65345, 65392, 65393, 65438, 65440, 65507, 65508, 65529, 65532, 66045,
   66046, 66272, 66273, 66422, 66427, 67456, 67462, 67463, 67505, 67506, 67515, 68097, 68100,
   68101, 68103, 68108, 68112, 68152, 68155, 68159, 68160, 68325, 68327, 68900, 68904, 69291,
   69293, 69446, 69457, 69506, 69510, 69633, 69634, 69688, 69703, 69744, 69745, 69747, 69749,
   69759, 69762, 69811, 69815, 69817, 69819, 69821, 69822, 69826, 69827, 69837, 69838, 69888,
   69891, 69927, 69932, 69933, 69941, 70003, 70004, 70016, 70018, 70070, 70079, 70089, 70093,
   70095, 70096, 70191, 70194, 70196, 70197, 70198, 70200, 70206, 70207, 70367, 70368, 70371,
   70379, 70400, 70402, 70459, 70461, 70464, 70465, 70502, 70509, 70512, 70517, 70712, 70720,
   70722, 70725, 70726, 70727, 70750, 70751, 70835, 70841, 70842, 70843, 70847, 70849, 70850,
   70852, 71090, 71094, 71100, 71102, 71103, 71105, 71132, 71134, 71219, 71227, 71229, 71230,
   71231, 71233, 71339, 71340, 71341, 71342, 71344, 71350, 71351, 71352, 71453, 71456, 71458,
   71462, 71463, 71468, 71727, 71736, 71737, 71739, 71995, 71997, 71998, 71999, 72003, 72004,
   72148, 72152, 72154, 72156, 72160, 72161, 72193, 72203, 72243, 72249, 72251, 72255, 72263,
   72264, 72273, 72279, 72281, 72284, 72330, 72343, 72344, 72346, 72752, 72759, 72760, 72766,
   72767, 72768, 72850, 72872, 72874, 72881, 72882, 72884, 72885, 72887, 73009, 73015, 73018,
   73019, 73020, 73022, 73023, 73030, 73031, 73032, 73104, 73106, 73109, 73110, 73111, 73112,
   73459, 73461, 78896, 78905, 92912, 92917, 92976, 92983, 92992, 92996, 94031, 94032, 94095,
   94112, 94176, 94178, 94179, 94181, 110576, 110580, 110581, 110588, 110589, 110591, 113821,
   113823, 113824, 113828, 118528, 118574, 118576, 118599, 119143, 119146, 119155, 119171, 119173,
   119180, 119210, 119214, 119362, 119365, 121344, 121399, 121403, 121453, 121461, 121462, 121476,
   121477, 121499, 121504, 121505, 121520, 122880, 122887, 122888, 122905, 122907, 122914, 122915,
   122917, 122918, 122923, 123184, 123198, 123566, 123567, 123628, 123632, 125136, 125143, 125252,
   125260, 127995, 128000, 917505, 917506, 917536, 917632, 917760, 918000]

end CatalogTypes.Text
