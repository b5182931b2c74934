/-!
# Binary properties

Some Unicode properties that a character has or has not.

- `binaryProperties`: each property with its names in small letters and its code points, as ranges.
-/

namespace UptimeMonitor.Unicode

/-- Part 1 of `propertyAlphabetic`. -/
def propertyAlphabetic1 : List (Nat × Nat) := [
  (65, 90), (97, 122), (170, 170), (181, 181), (186, 186), (192, 214), (216, 246), (248, 705),
  (710, 721), (736, 740), (748, 748), (750, 750), (837, 837), (880, 884), (886, 887), (890,
  893), (895, 895), (902, 902), (904, 906), (908, 908), (910, 929), (931, 1013), (1015, 1153),
  (1162, 1327), (1329, 1366), (1369, 1369), (1376, 1416), (1456, 1469), (1471, 1471), (1473,
  1474), (1476, 1477), (1479, 1479), (1488, 1514), (1519, 1522), (1552, 1562), (1568, 1623),
  (1625, 1631), (1646, 1747), (1749, 1756), (1761, 1768), (1773, 1775), (1786, 1788), (1791,
  1791), (1808, 1855), (1869, 1969), (1994, 2026), (2036, 2037), (2042, 2042), (2048, 2071),
  (2074, 2092), (2112, 2136), (2144, 2154), (2160, 2183), (2185, 2190), (2208, 2249), (2260,
  2271), (2275, 2281), (2288, 2363), (2365, 2380), (2382, 2384), (2389, 2403), (2417, 2435),
  (2437, 2444), (2447, 2448), (2451, 2472), (2474, 2480), (2482, 2482), (2486, 2489), (2493,
  2500), (2503, 2504), (2507, 2508), (2510, 2510), (2519, 2519), (2524, 2525), (2527, 2531),
  (2544, 2545), (2556, 2556), (2561, 2563), (2565, 2570), (2575, 2576), (2579, 2600), (2602,
  2608), (2610, 2611), (2613, 2614), (2616, 2617), (2622, 2626), (2631, 2632), (2635, 2636),
  (2641, 2641), (2649, 2652), (2654, 2654), (2672, 2677), (2689, 2691), (2693, 2701), (2703,
  2705), (2707, 2728), (2730, 2736), (2738, 2739), (2741, 2745), (2749, 2757), (2759, 2761),
  (2763, 2764), (2768, 2768), (2784, 2787), (2809, 2812), (2817, 2819), (2821, 2828), (2831,
  2832), (2835, 2856), (2858, 2864), (2866, 2867), (2869, 2873), (2877, 2884), (2887, 2888),
  (2891, 2892), (2902, 2903), (2908, 2909), (2911, 2915), (2929, 2929), (2946, 2947), (2949,
  2954), (2958, 2960), (2962, 2965), (2969, 2970), (2972, 2972), (2974, 2975), (2979, 2980),
  (2984, 2986), (2990, 3001), (3006, 3010), (3014, 3016), (3018, 3020), (3024, 3024), (3031,
  3031), (3072, 3084), (3086, 3088), (3090, 3112), (3114, 3129), (3133, 3140), (3142, 3144),
  (3146, 3148), (3157, 3158), (3160, 3162), (3165, 3165), (3168, 3171), (3200, 3203), (3205,
  3212), (3214, 3216), (3218, 3240), (3242, 3251), (3253, 3257), (3261, 3268), (3270, 3272),
  (3274, 3276), (3285, 3286), (3293, 3294), (3296, 3299), (3313, 3315), (3328, 3340), (3342,
  3344), (3346, 3386), (3389, 3396), (3398, 3400), (3402, 3404), (3406, 3406), (3412, 3415),
  (3423, 3427), (3450, 3455), (3457, 3459), (3461, 3478), (3482, 3505), (3507, 3515), (3517,
  3517), (3520, 3526), (3535, 3540), (3542, 3542), (3544, 3551), (3570, 3571), (3585, 3642),
  (3648, 3654), (3661, 3661), (3713, 3714), (3716, 3716), (3718, 3722), (3724, 3747), (3749,
  3749), (3751, 3769), (3771, 3773), (3776, 3780), (3782, 3782), (3789, 3789), (3804, 3807),
  (3840, 3840), (3904, 3911), (3913, 3948), (3953, 3971), (3976, 3991), (3993, 4028), (4096,
  4150), (4152, 4152)]

/-- Part 2 of `propertyAlphabetic`. -/
def propertyAlphabetic2 : List (Nat × Nat) := [
  (4155, 4159), (4176, 4239), (4250, 4253), (4256, 4293), (4295, 4295), (4301, 4301), (4304,
  4346), (4348, 4680), (4682, 4685), (4688, 4694), (4696, 4696), (4698, 4701), (4704, 4744),
  (4746, 4749), (4752, 4784), (4786, 4789), (4792, 4798), (4800, 4800), (4802, 4805), (4808,
  4822), (4824, 4880), (4882, 4885), (4888, 4954), (4992, 5007), (5024, 5109), (5112, 5117),
  (5121, 5740), (5743, 5759), (5761, 5786), (5792, 5866), (5870, 5880), (5888, 5907), (5919,
  5939), (5952, 5971), (5984, 5996), (5998, 6000), (6002, 6003), (6016, 6067), (6070, 6088),
  (6103, 6103), (6108, 6108), (6176, 6264), (6272, 6314), (6320, 6389), (6400, 6430), (6432,
  6443), (6448, 6456), (6480, 6509), (6512, 6516), (6528, 6571), (6576, 6601), (6656, 6683),
  (6688, 6750), (6753, 6772), (6823, 6823), (6847, 6848), (6860, 6862), (6912, 6963), (6965,
  6979), (6981, 6988), (7040, 7081), (7084, 7087), (7098, 7141), (7143, 7153), (7168, 7222),
  (7245, 7247), (7258, 7293), (7296, 7304), (7312, 7354), (7357, 7359), (7401, 7404), (7406,
  7411), (7413, 7414), (7418, 7418), (7424, 7615), (7655, 7668), (7680, 7957), (7960, 7965),
  (7968, 8005), (8008, 8013), (8016, 8023), (8025, 8025), (8027, 8027), (8029, 8029), (8031,
  8061), (8064, 8116), (8118, 8124), (8126, 8126), (8130, 8132), (8134, 8140), (8144, 8147),
  (8150, 8155), (8160, 8172), (8178, 8180), (8182, 8188), (8305, 8305), (8319, 8319), (8336,
  8348), (8450, 8450), (8455, 8455), (8458, 8467), (8469, 8469), (8473, 8477), (8484, 8484),
  (8486, 8486), (8488, 8488), (8490, 8493), (8495, 8505), (8508, 8511), (8517, 8521), (8526,
  8526), (8544, 8584), (9398, 9449), (11264, 11492), (11499, 11502), (11506, 11507), (11520,
  11557), (11559, 11559), (11565, 11565), (11568, 11623), (11631, 11631), (11648, 11670),
  (11680, 11686), (11688, 11694), (11696, 11702), (11704, 11710), (11712, 11718), (11720,
  11726), (11728, 11734), (11736, 11742), (11744, 11775), (11823, 11823), (12293, 12295),
  (12321, 12329), (12337, 12341), (12344, 12348), (12353, 12438), (12445, 12447), (12449,
  12538), (12540, 12543), (12549, 12591), (12593, 12686), (12704, 12735), (12784, 12799),
  (13312, 19903), (19968, 42124), (42192, 42237), (42240, 42508), (42512, 42527), (42538,
  42539), (42560, 42606), (42612, 42619), (42623, 42735), (42775, 42783), (42786, 42888),
  (42891, 42954), (42960, 42961), (42963, 42963), (42965, 42969), (42994, 43013), (43015,
  43047), (43072, 43123), (43136, 43203), (43205, 43205), (43250, 43255), (43259, 43259),
  (43261, 43263), (43274, 43306), (43312, 43346), (43360, 43388), (43392, 43442), (43444,
  43455), (43471, 43471), (43488, 43503), (43514, 43518), (43520, 43574), (43584, 43597),
  (43616, 43638), (43642, 43710), (43712, 43712), (43714, 43714), (43739, 43741), (43744,
  43759), (43762, 43765), (43777, 43782), (43785, 43790), (43793, 43798), (43808, 43814),
  (43816, 43822), (43824, 43866), (43868, 43881), (43888, 44010), (44032, 55203), (55216,
  55238), (55243, 55291), (63744, 64109), (64112, 64217), (64256, 64262), (64275, 64279),
  (64285, 64296)]

/-- Part 3 of `propertyAlphabetic`. -/
def propertyAlphabetic3 : List (Nat × Nat) := [
  (64298, 64310), (64312, 64316), (64318, 64318), (64320, 64321), (64323, 64324), (64326,
  64433), (64467, 64829), (64848, 64911), (64914, 64967), (65008, 65019), (65136, 65140),
  (65142, 65276), (65313, 65338), (65345, 65370), (65382, 65470), (65474, 65479), (65482,
  65487), (65490, 65495), (65498, 65500), (65536, 65547), (65549, 65574), (65576, 65594),
  (65596, 65597), (65599, 65613), (65616, 65629), (65664, 65786), (65856, 65908), (66176,
  66204), (66208, 66256), (66304, 66335), (66349, 66378), (66384, 66426), (66432, 66461),
  (66464, 66499), (66504, 66511), (66513, 66517), (66560, 66717), (66736, 66771), (66776,
  66811), (66816, 66855), (66864, 66915), (66928, 66938), (66940, 66954), (66956, 66962),
  (66964, 66965), (66967, 66977), (66979, 66993), (66995, 67001), (67003, 67004), (67072,
  67382), (67392, 67413), (67424, 67431), (67456, 67461), (67463, 67504), (67506, 67514),
  (67584, 67589), (67592, 67592), (67594, 67637), (67639, 67640), (67644, 67644), (67647,
  67669), (67680, 67702), (67712, 67742), (67808, 67826), (67828, 67829), (67840, 67861),
  (67872, 67897), (67968, 68023), (68030, 68031), (68096, 68099), (68101, 68102), (68108,
  68115), (68117, 68119), (68121, 68149), (68192, 68220), (68224, 68252), (68288, 68295),
  (68297, 68324), (68352, 68405), (68416, 68437), (68448, 68466), (68480, 68497), (68608,
  68680), (68736, 68786), (68800, 68850), (68864, 68903), (69248, 69289), (69291, 69292),
  (69296, 69297), (69376, 69404), (69415, 69415), (69424, 69445), (69488, 69505), (69552,
  69572), (69600, 69622), (69632, 69701), (69745, 69749), (69760, 69816), (69826, 69826),
  (69840, 69864), (69888, 69938), (69956, 69959), (69968, 70002), (70006, 70006), (70016,
  70079), (70081, 70084), (70094, 70095), (70106, 70106), (70108, 70108), (70144, 70161),
  (70163, 70196), (70199, 70199), (70206, 70209), (70272, 70278), (70280, 70280), (70282,
  70285), (70287, 70301), (70303, 70312), (70320, 70376), (70400, 70403), (70405, 70412),
  (70415, 70416), (70419, 70440), (70442, 70448), (70450, 70451), (70453, 70457), (70461,
  70468), (70471, 70472), (70475, 70476), (70480, 70480), (70487, 70487), (70493, 70499),
  (70656, 70721), (70723, 70725), (70727, 70730), (70751, 70753), (70784, 70849), (70852,
  70853), (70855, 70855), (71040, 71093), (71096, 71102), (71128, 71133), (71168, 71230),
  (71232, 71232), (71236, 71236), (71296, 71349), (71352, 71352), (71424, 71450), (71453,
  71466), (71488, 71494), (71680, 71736), (71840, 71903), (71935, 71942), (71945, 71945),
  (71948, 71955), (71957, 71958), (71960, 71989), (71991, 71992), (71995, 71996), (71999,
  72002), (72096, 72103), (72106, 72151), (72154, 72159), (72161, 72161), (72163, 72164),
  (72192, 72242), (72245, 72254), (72272, 72343), (72349, 72349), (72368, 72440), (72704,
  72712), (72714, 72758), (72760, 72766), (72768, 72768), (72818, 72847), (72850, 72871),
  (72873, 72886), (72960, 72966), (72968, 72969), (72971, 73014), (73018, 73018), (73020,
  73021), (73023, 73025), (73027, 73027), (73030, 73031), (73056, 73061), (73063, 73064),
  (73066, 73102), (73104, 73105), (73107, 73110), (73112, 73112), (73440, 73462), (73472,
  73488), (73490, 73530), (73534, 73536), (73648, 73648), (73728, 74649), (74752, 74862),
  (74880, 75075), (77712, 77808)]

/-- Part 4 of `propertyAlphabetic`. -/
def propertyAlphabetic4 : List (Nat × Nat) := [
  (77824, 78895), (78913, 78918), (82944, 83526), (92160, 92728), (92736, 92766), (92784,
  92862), (92880, 92909), (92928, 92975), (92992, 92995), (93027, 93047), (93053, 93071),
  (93760, 93823), (93952, 94026), (94031, 94087), (94095, 94111), (94176, 94177), (94179,
  94179), (94192, 94193), (94208, 100343), (100352, 101589), (101632, 101640), (110576, 110579),
  (110581, 110587), (110589, 110590), (110592, 110882), (110898, 110898), (110928, 110930),
  (110933, 110933), (110948, 110951), (110960, 111355), (113664, 113770), (113776, 113788),
  (113792, 113800), (113808, 113817), (113822, 113822), (119808, 119892), (119894, 119964),
  (119966, 119967), (119970, 119970), (119973, 119974), (119977, 119980), (119982, 119993),
  (119995, 119995), (119997, 120003), (120005, 120069), (120071, 120074), (120077, 120084),
  (120086, 120092), (120094, 120121), (120123, 120126), (120128, 120132), (120134, 120134),
  (120138, 120144), (120146, 120485), (120488, 120512), (120514, 120538), (120540, 120570),
  (120572, 120596), (120598, 120628), (120630, 120654), (120656, 120686), (120688, 120712),
  (120714, 120744), (120746, 120770), (120772, 120779), (122624, 122654), (122661, 122666),
  (122880, 122886), (122888, 122904), (122907, 122913), (122915, 122916), (122918, 122922),
  (122928, 122989), (123023, 123023), (123136, 123180), (123191, 123197), (123214, 123214),
  (123536, 123565), (123584, 123627), (124112, 124139), (124896, 124902), (124904, 124907),
  (124909, 124910), (124912, 124926), (124928, 125124), (125184, 125251), (125255, 125255),
  (125259, 125259), (126464, 126467), (126469, 126495), (126497, 126498), (126500, 126500),
  (126503, 126503), (126505, 126514), (126516, 126519), (126521, 126521), (126523, 126523),
  (126530, 126530), (126535, 126535), (126537, 126537), (126539, 126539), (126541, 126543),
  (126545, 126546), (126548, 126548), (126551, 126551), (126553, 126553), (126555, 126555),
  (126557, 126557), (126559, 126559), (126561, 126562), (126564, 126564), (126567, 126570),
  (126572, 126578), (126580, 126583), (126585, 126588), (126590, 126590), (126592, 126601),
  (126603, 126619), (126625, 126627), (126629, 126633), (126635, 126651), (127280, 127305),
  (127312, 127337), (127344, 127369), (131072, 173791), (173824, 177977), (177984, 178205),
  (178208, 183969), (183984, 191456), (194560, 195101), (196608, 201546), (201552, 205743)]

/-- The code points with the property Alphabetic, as ranges. -/
def propertyAlphabetic : List (Nat × Nat) :=
  propertyAlphabetic1 ++ propertyAlphabetic2 ++ propertyAlphabetic3 ++ propertyAlphabetic4

/-- Part 1 of `propertyUppercase`. -/
def propertyUppercase1 : List (Nat × Nat) := [
  (65, 90), (192, 214), (216, 222), (256, 256), (258, 258), (260, 260), (262, 262), (264, 264),
  (266, 266), (268, 268), (270, 270), (272, 272), (274, 274), (276, 276), (278, 278), (280,
  280), (282, 282), (284, 284), (286, 286), (288, 288), (290, 290), (292, 292), (294, 294),
  (296, 296), (298, 298), (300, 300), (302, 302), (304, 304), (306, 306), (308, 308), (310,
  310), (313, 313), (315, 315), (317, 317), (319, 319), (321, 321), (323, 323), (325, 325),
  (327, 327), (330, 330), (332, 332), (334, 334), (336, 336), (338, 338), (340, 340), (342,
  342), (344, 344), (346, 346), (348, 348), (350, 350), (352, 352), (354, 354), (356, 356),
  (358, 358), (360, 360), (362, 362), (364, 364), (366, 366), (368, 368), (370, 370), (372,
  372), (374, 374), (376, 377), (379, 379), (381, 381), (385, 386), (388, 388), (390, 391),
  (393, 395), (398, 401), (403, 404), (406, 408), (412, 413), (415, 416), (418, 418), (420,
  420), (422, 423), (425, 425), (428, 428), (430, 431), (433, 435), (437, 437), (439, 440),
  (444, 444), (452, 452), (455, 455), (458, 458), (461, 461), (463, 463), (465, 465), (467,
  467), (469, 469), (471, 471), (473, 473), (475, 475), (478, 478), (480, 480), (482, 482),
  (484, 484), (486, 486), (488, 488), (490, 490), (492, 492), (494, 494), (497, 497), (500,
  500), (502, 504), (506, 506), (508, 508), (510, 510), (512, 512), (514, 514), (516, 516),
  (518, 518), (520, 520), (522, 522), (524, 524), (526, 526), (528, 528), (530, 530), (532,
  532), (534, 534), (536, 536), (538, 538), (540, 540), (542, 542), (544, 544), (546, 546),
  (548, 548), (550, 550), (552, 552), (554, 554), (556, 556), (558, 558), (560, 560), (562,
  562), (570, 571), (573, 574), (577, 577), (579, 582), (584, 584), (586, 586), (588, 588),
  (590, 590), (880, 880), (882, 882), (886, 886), (895, 895), (902, 902), (904, 906), (908,
  908), (910, 911), (913, 929), (931, 939), (975, 975), (978, 980), (984, 984), (986, 986),
  (988, 988), (990, 990), (992, 992), (994, 994), (996, 996), (998, 998), (1000, 1000), (1002,
  1002), (1004, 1004), (1006, 1006), (1012, 1012), (1015, 1015), (1017, 1018), (1021, 1071),
  (1120, 1120), (1122, 1122), (1124, 1124), (1126, 1126), (1128, 1128), (1130, 1130), (1132,
  1132), (1134, 1134), (1136, 1136), (1138, 1138), (1140, 1140), (1142, 1142), (1144, 1144),
  (1146, 1146), (1148, 1148), (1150, 1150), (1152, 1152), (1162, 1162), (1164, 1164), (1166,
  1166), (1168, 1168), (1170, 1170), (1172, 1172), (1174, 1174), (1176, 1176), (1178, 1178),
  (1180, 1180), (1182, 1182)]

/-- Part 2 of `propertyUppercase`. -/
def propertyUppercase2 : List (Nat × Nat) := [
  (1184, 1184), (1186, 1186), (1188, 1188), (1190, 1190), (1192, 1192), (1194, 1194), (1196,
  1196), (1198, 1198), (1200, 1200), (1202, 1202), (1204, 1204), (1206, 1206), (1208, 1208),
  (1210, 1210), (1212, 1212), (1214, 1214), (1216, 1217), (1219, 1219), (1221, 1221), (1223,
  1223), (1225, 1225), (1227, 1227), (1229, 1229), (1232, 1232), (1234, 1234), (1236, 1236),
  (1238, 1238), (1240, 1240), (1242, 1242), (1244, 1244), (1246, 1246), (1248, 1248), (1250,
  1250), (1252, 1252), (1254, 1254), (1256, 1256), (1258, 1258), (1260, 1260), (1262, 1262),
  (1264, 1264), (1266, 1266), (1268, 1268), (1270, 1270), (1272, 1272), (1274, 1274), (1276,
  1276), (1278, 1278), (1280, 1280), (1282, 1282), (1284, 1284), (1286, 1286), (1288, 1288),
  (1290, 1290), (1292, 1292), (1294, 1294), (1296, 1296), (1298, 1298), (1300, 1300), (1302,
  1302), (1304, 1304), (1306, 1306), (1308, 1308), (1310, 1310), (1312, 1312), (1314, 1314),
  (1316, 1316), (1318, 1318), (1320, 1320), (1322, 1322), (1324, 1324), (1326, 1326), (1329,
  1366), (4256, 4293), (4295, 4295), (4301, 4301), (5024, 5109), (7312, 7354), (7357, 7359),
  (7680, 7680), (7682, 7682), (7684, 7684), (7686, 7686), (7688, 7688), (7690, 7690), (7692,
  7692), (7694, 7694), (7696, 7696), (7698, 7698), (7700, 7700), (7702, 7702), (7704, 7704),
  (7706, 7706), (7708, 7708), (7710, 7710), (7712, 7712), (7714, 7714), (7716, 7716), (7718,
  7718), (7720, 7720), (7722, 7722), (7724, 7724), (7726, 7726), (7728, 7728), (7730, 7730),
  (7732, 7732), (7734, 7734), (7736, 7736), (7738, 7738), (7740, 7740), (7742, 7742), (7744,
  7744), (7746, 7746), (7748, 7748), (7750, 7750), (7752, 7752), (7754, 7754), (7756, 7756),
  (7758, 7758), (7760, 7760), (7762, 7762), (7764, 7764), (7766, 7766), (7768, 7768), (7770,
  7770), (7772, 7772), (7774, 7774), (7776, 7776), (7778, 7778), (7780, 7780), (7782, 7782),
  (7784, 7784), (7786, 7786), (7788, 7788), (7790, 7790), (7792, 7792), (7794, 7794), (7796,
  7796), (7798, 7798), (7800, 7800), (7802, 7802), (7804, 7804), (7806, 7806), (7808, 7808),
  (7810, 7810), (7812, 7812), (7814, 7814), (7816, 7816), (7818, 7818), (7820, 7820), (7822,
  7822), (7824, 7824), (7826, 7826), (7828, 7828), (7838, 7838), (7840, 7840), (7842, 7842),
  (7844, 7844), (7846, 7846), (7848, 7848), (7850, 7850), (7852, 7852), (7854, 7854), (7856,
  7856), (7858, 7858), (7860, 7860), (7862, 7862), (7864, 7864), (7866, 7866), (7868, 7868),
  (7870, 7870), (7872, 7872), (7874, 7874), (7876, 7876), (7878, 7878), (7880, 7880), (7882,
  7882), (7884, 7884), (7886, 7886), (7888, 7888), (7890, 7890), (7892, 7892), (7894, 7894),
  (7896, 7896), (7898, 7898), (7900, 7900), (7902, 7902), (7904, 7904), (7906, 7906), (7908,
  7908), (7910, 7910), (7912, 7912), (7914, 7914), (7916, 7916), (7918, 7918), (7920, 7920),
  (7922, 7922), (7924, 7924), (7926, 7926), (7928, 7928), (7930, 7930)]

/-- Part 3 of `propertyUppercase`. -/
def propertyUppercase3 : List (Nat × Nat) := [
  (7932, 7932), (7934, 7934), (7944, 7951), (7960, 7965), (7976, 7983), (7992, 7999), (8008,
  8013), (8025, 8025), (8027, 8027), (8029, 8029), (8031, 8031), (8040, 8047), (8120, 8123),
  (8136, 8139), (8152, 8155), (8168, 8172), (8184, 8187), (8450, 8450), (8455, 8455), (8459,
  8461), (8464, 8466), (8469, 8469), (8473, 8477), (8484, 8484), (8486, 8486), (8488, 8488),
  (8490, 8493), (8496, 8499), (8510, 8511), (8517, 8517), (8544, 8559), (8579, 8579), (9398,
  9423), (11264, 11311), (11360, 11360), (11362, 11364), (11367, 11367), (11369, 11369), (11371,
  11371), (11373, 11376), (11378, 11378), (11381, 11381), (11390, 11392), (11394, 11394),
  (11396, 11396), (11398, 11398), (11400, 11400), (11402, 11402), (11404, 11404), (11406,
  11406), (11408, 11408), (11410, 11410), (11412, 11412), (11414, 11414), (11416, 11416),
  (11418, 11418), (11420, 11420), (11422, 11422), (11424, 11424), (11426, 11426), (11428,
  11428), (11430, 11430), (11432, 11432), (11434, 11434), (11436, 11436), (11438, 11438),
  (11440, 11440), (11442, 11442), (11444, 11444), (11446, 11446), (11448, 11448), (11450,
  11450), (11452, 11452), (11454, 11454), (11456, 11456), (11458, 11458), (11460, 11460),
  (11462, 11462), (11464, 11464), (11466, 11466), (11468, 11468), (11470, 11470), (11472,
  11472), (11474, 11474), (11476, 11476), (11478, 11478), (11480, 11480), (11482, 11482),
  (11484, 11484), (11486, 11486), (11488, 11488), (11490, 11490), (11499, 11499), (11501,
  11501), (11506, 11506), (42560, 42560), (42562, 42562), (42564, 42564), (42566, 42566),
  (42568, 42568), (42570, 42570), (42572, 42572), (42574, 42574), (42576, 42576), (42578,
  42578), (42580, 42580), (42582, 42582), (42584, 42584), (42586, 42586), (42588, 42588),
  (42590, 42590), (42592, 42592), (42594, 42594), (42596, 42596), (42598, 42598), (42600,
  42600), (42602, 42602), (42604, 42604), (42624, 42624), (42626, 42626), (42628, 42628),
  (42630, 42630), (42632, 42632), (42634, 42634), (42636, 42636), (42638, 42638), (42640,
  42640), (42642, 42642), (42644, 42644), (42646, 42646), (42648, 42648), (42650, 42650),
  (42786, 42786), (42788, 42788), (42790, 42790), (42792, 42792), (42794, 42794), (42796,
  42796), (42798, 42798), (42802, 42802), (42804, 42804), (42806, 42806), (42808, 42808),
  (42810, 42810), (42812, 42812), (42814, 42814), (42816, 42816), (42818, 42818), (42820,
  42820), (42822, 42822), (42824, 42824), (42826, 42826), (42828, 42828), (42830, 42830),
  (42832, 42832), (42834, 42834), (42836, 42836), (42838, 42838), (42840, 42840), (42842,
  42842), (42844, 42844), (42846, 42846), (42848, 42848), (42850, 42850), (42852, 42852),
  (42854, 42854), (42856, 42856), (42858, 42858), (42860, 42860), (42862, 42862), (42873,
  42873), (42875, 42875), (42877, 42878), (42880, 42880), (42882, 42882), (42884, 42884),
  (42886, 42886), (42891, 42891), (42893, 42893), (42896, 42896), (42898, 42898), (42902,
  42902), (42904, 42904), (42906, 42906), (42908, 42908), (42910, 42910), (42912, 42912),
  (42914, 42914), (42916, 42916), (42918, 42918), (42920, 42920), (42922, 42926), (42928,
  42932), (42934, 42934), (42936, 42936), (42938, 42938), (42940, 42940), (42942, 42942),
  (42944, 42944), (42946, 42946)]

/-- Part 4 of `propertyUppercase`. -/
def propertyUppercase4 : List (Nat × Nat) := [
  (42948, 42951), (42953, 42953), (42960, 42960), (42966, 42966), (42968, 42968), (42997,
  42997), (65313, 65338), (66560, 66599), (66736, 66771), (66928, 66938), (66940, 66954),
  (66956, 66962), (66964, 66965), (68736, 68786), (71840, 71871), (93760, 93791), (119808,
  119833), (119860, 119885), (119912, 119937), (119964, 119964), (119966, 119967), (119970,
  119970), (119973, 119974), (119977, 119980), (119982, 119989), (120016, 120041), (120068,
  120069), (120071, 120074), (120077, 120084), (120086, 120092), (120120, 120121), (120123,
  120126), (120128, 120132), (120134, 120134), (120138, 120144), (120172, 120197), (120224,
  120249), (120276, 120301), (120328, 120353), (120380, 120405), (120432, 120457), (120488,
  120512), (120546, 120570), (120604, 120628), (120662, 120686), (120720, 120744), (120778,
  120778), (125184, 125217), (127280, 127305), (127312, 127337), (127344, 127369)]

/-- The code points with the property Uppercase, as ranges. -/
def propertyUppercase : List (Nat × Nat) :=
  propertyUppercase1 ++ propertyUppercase2 ++ propertyUppercase3 ++ propertyUppercase4

/-- Part 1 of `propertyLowercase`. -/
def propertyLowercase1 : List (Nat × Nat) := [
  (97, 122), (170, 170), (181, 181), (186, 186), (223, 246), (248, 255), (257, 257), (259, 259),
  (261, 261), (263, 263), (265, 265), (267, 267), (269, 269), (271, 271), (273, 273), (275,
  275), (277, 277), (279, 279), (281, 281), (283, 283), (285, 285), (287, 287), (289, 289),
  (291, 291), (293, 293), (295, 295), (297, 297), (299, 299), (301, 301), (303, 303), (305,
  305), (307, 307), (309, 309), (311, 312), (314, 314), (316, 316), (318, 318), (320, 320),
  (322, 322), (324, 324), (326, 326), (328, 329), (331, 331), (333, 333), (335, 335), (337,
  337), (339, 339), (341, 341), (343, 343), (345, 345), (347, 347), (349, 349), (351, 351),
  (353, 353), (355, 355), (357, 357), (359, 359), (361, 361), (363, 363), (365, 365), (367,
  367), (369, 369), (371, 371), (373, 373), (375, 375), (378, 378), (380, 380), (382, 384),
  (387, 387), (389, 389), (392, 392), (396, 397), (402, 402), (405, 405), (409, 411), (414,
  414), (417, 417), (419, 419), (421, 421), (424, 424), (426, 427), (429, 429), (432, 432),
  (436, 436), (438, 438), (441, 442), (445, 447), (454, 454), (457, 457), (460, 460), (462,
  462), (464, 464), (466, 466), (468, 468), (470, 470), (472, 472), (474, 474), (476, 477),
  (479, 479), (481, 481), (483, 483), (485, 485), (487, 487), (489, 489), (491, 491), (493,
  493), (495, 496), (499, 499), (501, 501), (505, 505), (507, 507), (509, 509), (511, 511),
  (513, 513), (515, 515), (517, 517), (519, 519), (521, 521), (523, 523), (525, 525), (527,
  527), (529, 529), (531, 531), (533, 533), (535, 535), (537, 537), (539, 539), (541, 541),
  (543, 543), (545, 545), (547, 547), (549, 549), (551, 551), (553, 553), (555, 555), (557,
  557), (559, 559), (561, 561), (563, 569), (572, 572), (575, 576), (578, 578), (583, 583),
  (585, 585), (587, 587), (589, 589), (591, 659), (661, 696), (704, 705), (736, 740), (837,
  837), (881, 881), (883, 883), (887, 887), (890, 893), (912, 912), (940, 974), (976, 977),
  (981, 983), (985, 985), (987, 987), (989, 989), (991, 991), (993, 993), (995, 995), (997,
  997), (999, 999), (1001, 1001), (1003, 1003), (1005, 1005), (1007, 1011), (1013, 1013), (1016,
  1016), (1019, 1020), (1072, 1119), (1121, 1121), (1123, 1123), (1125, 1125), (1127, 1127),
  (1129, 1129), (1131, 1131), (1133, 1133), (1135, 1135), (1137, 1137), (1139, 1139), (1141,
  1141), (1143, 1143), (1145, 1145), (1147, 1147), (1149, 1149), (1151, 1151), (1153, 1153),
  (1163, 1163), (1165, 1165), (1167, 1167), (1169, 1169), (1171, 1171), (1173, 1173), (1175,
  1175), (1177, 1177)]

/-- Part 2 of `propertyLowercase`. -/
def propertyLowercase2 : List (Nat × Nat) := [
  (1179, 1179), (1181, 1181), (1183, 1183), (1185, 1185), (1187, 1187), (1189, 1189), (1191,
  1191), (1193, 1193), (1195, 1195), (1197, 1197), (1199, 1199), (1201, 1201), (1203, 1203),
  (1205, 1205), (1207, 1207), (1209, 1209), (1211, 1211), (1213, 1213), (1215, 1215), (1218,
  1218), (1220, 1220), (1222, 1222), (1224, 1224), (1226, 1226), (1228, 1228), (1230, 1231),
  (1233, 1233), (1235, 1235), (1237, 1237), (1239, 1239), (1241, 1241), (1243, 1243), (1245,
  1245), (1247, 1247), (1249, 1249), (1251, 1251), (1253, 1253), (1255, 1255), (1257, 1257),
  (1259, 1259), (1261, 1261), (1263, 1263), (1265, 1265), (1267, 1267), (1269, 1269), (1271,
  1271), (1273, 1273), (1275, 1275), (1277, 1277), (1279, 1279), (1281, 1281), (1283, 1283),
  (1285, 1285), (1287, 1287), (1289, 1289), (1291, 1291), (1293, 1293), (1295, 1295), (1297,
  1297), (1299, 1299), (1301, 1301), (1303, 1303), (1305, 1305), (1307, 1307), (1309, 1309),
  (1311, 1311), (1313, 1313), (1315, 1315), (1317, 1317), (1319, 1319), (1321, 1321), (1323,
  1323), (1325, 1325), (1327, 1327), (1376, 1416), (4304, 4346), (4348, 4351), (5112, 5117),
  (7296, 7304), (7424, 7615), (7681, 7681), (7683, 7683), (7685, 7685), (7687, 7687), (7689,
  7689), (7691, 7691), (7693, 7693), (7695, 7695), (7697, 7697), (7699, 7699), (7701, 7701),
  (7703, 7703), (7705, 7705), (7707, 7707), (7709, 7709), (7711, 7711), (7713, 7713), (7715,
  7715), (7717, 7717), (7719, 7719), (7721, 7721), (7723, 7723), (7725, 7725), (7727, 7727),
  (7729, 7729), (7731, 7731), (7733, 7733), (7735, 7735), (7737, 7737), (7739, 7739), (7741,
  7741), (7743, 7743), (7745, 7745), (7747, 7747), (7749, 7749), (7751, 7751), (7753, 7753),
  (7755, 7755), (7757, 7757), (7759, 7759), (7761, 7761), (7763, 7763), (7765, 7765), (7767,
  7767), (7769, 7769), (7771, 7771), (7773, 7773), (7775, 7775), (7777, 7777), (7779, 7779),
  (7781, 7781), (7783, 7783), (7785, 7785), (7787, 7787), (7789, 7789), (7791, 7791), (7793,
  7793), (7795, 7795), (7797, 7797), (7799, 7799), (7801, 7801), (7803, 7803), (7805, 7805),
  (7807, 7807), (7809, 7809), (7811, 7811), (7813, 7813), (7815, 7815), (7817, 7817), (7819,
  7819), (7821, 7821), (7823, 7823), (7825, 7825), (7827, 7827), (7829, 7837), (7839, 7839),
  (7841, 7841), (7843, 7843), (7845, 7845), (7847, 7847), (7849, 7849), (7851, 7851), (7853,
  7853), (7855, 7855), (7857, 7857), (7859, 7859), (7861, 7861), (7863, 7863), (7865, 7865),
  (7867, 7867), (7869, 7869), (7871, 7871), (7873, 7873), (7875, 7875), (7877, 7877), (7879,
  7879), (7881, 7881), (7883, 7883), (7885, 7885), (7887, 7887), (7889, 7889), (7891, 7891),
  (7893, 7893), (7895, 7895), (7897, 7897), (7899, 7899), (7901, 7901), (7903, 7903), (7905,
  7905), (7907, 7907), (7909, 7909), (7911, 7911), (7913, 7913), (7915, 7915), (7917, 7917),
  (7919, 7919), (7921, 7921), (7923, 7923), (7925, 7925), (7927, 7927)]

/-- Part 3 of `propertyLowercase`. -/
def propertyLowercase3 : List (Nat × Nat) := [
  (7929, 7929), (7931, 7931), (7933, 7933), (7935, 7943), (7952, 7957), (7968, 7975), (7984,
  7991), (8000, 8005), (8016, 8023), (8032, 8039), (8048, 8061), (8064, 8071), (8080, 8087),
  (8096, 8103), (8112, 8116), (8118, 8119), (8126, 8126), (8130, 8132), (8134, 8135), (8144,
  8147), (8150, 8151), (8160, 8167), (8178, 8180), (8182, 8183), (8305, 8305), (8319, 8319),
  (8336, 8348), (8458, 8458), (8462, 8463), (8467, 8467), (8495, 8495), (8500, 8500), (8505,
  8505), (8508, 8509), (8518, 8521), (8526, 8526), (8560, 8575), (8580, 8580), (9424, 9449),
  (11312, 11359), (11361, 11361), (11365, 11366), (11368, 11368), (11370, 11370), (11372,
  11372), (11377, 11377), (11379, 11380), (11382, 11389), (11393, 11393), (11395, 11395),
  (11397, 11397), (11399, 11399), (11401, 11401), (11403, 11403), (11405, 11405), (11407,
  11407), (11409, 11409), (11411, 11411), (11413, 11413), (11415, 11415), (11417, 11417),
  (11419, 11419), (11421, 11421), (11423, 11423), (11425, 11425), (11427, 11427), (11429,
  11429), (11431, 11431), (11433, 11433), (11435, 11435), (11437, 11437), (11439, 11439),
  (11441, 11441), (11443, 11443), (11445, 11445), (11447, 11447), (11449, 11449), (11451,
  11451), (11453, 11453), (11455, 11455), (11457, 11457), (11459, 11459), (11461, 11461),
  (11463, 11463), (11465, 11465), (11467, 11467), (11469, 11469), (11471, 11471), (11473,
  11473), (11475, 11475), (11477, 11477), (11479, 11479), (11481, 11481), (11483, 11483),
  (11485, 11485), (11487, 11487), (11489, 11489), (11491, 11492), (11500, 11500), (11502,
  11502), (11507, 11507), (11520, 11557), (11559, 11559), (11565, 11565), (42561, 42561),
  (42563, 42563), (42565, 42565), (42567, 42567), (42569, 42569), (42571, 42571), (42573,
  42573), (42575, 42575), (42577, 42577), (42579, 42579), (42581, 42581), (42583, 42583),
  (42585, 42585), (42587, 42587), (42589, 42589), (42591, 42591), (42593, 42593), (42595,
  42595), (42597, 42597), (42599, 42599), (42601, 42601), (42603, 42603), (42605, 42605),
  (42625, 42625), (42627, 42627), (42629, 42629), (42631, 42631), (42633, 42633), (42635,
  42635), (42637, 42637), (42639, 42639), (42641, 42641), (42643, 42643), (42645, 42645),
  (42647, 42647), (42649, 42649), (42651, 42653), (42787, 42787), (42789, 42789), (42791,
  42791), (42793, 42793), (42795, 42795), (42797, 42797), (42799, 42801), (42803, 42803),
  (42805, 42805), (42807, 42807), (42809, 42809), (42811, 42811), (42813, 42813), (42815,
  42815), (42817, 42817), (42819, 42819), (42821, 42821), (42823, 42823), (42825, 42825),
  (42827, 42827), (42829, 42829), (42831, 42831), (42833, 42833), (42835, 42835), (42837,
  42837), (42839, 42839), (42841, 42841), (42843, 42843), (42845, 42845), (42847, 42847),
  (42849, 42849), (42851, 42851), (42853, 42853), (42855, 42855), (42857, 42857), (42859,
  42859), (42861, 42861), (42863, 42872), (42874, 42874), (42876, 42876), (42879, 42879),
  (42881, 42881), (42883, 42883), (42885, 42885), (42887, 42887), (42892, 42892), (42894,
  42894), (42897, 42897), (42899, 42901), (42903, 42903), (42905, 42905), (42907, 42907),
  (42909, 42909), (42911, 42911), (42913, 42913), (42915, 42915), (42917, 42917), (42919,
  42919), (42921, 42921)]

/-- Part 4 of `propertyLowercase`. -/
def propertyLowercase4 : List (Nat × Nat) := [
  (42927, 42927), (42933, 42933), (42935, 42935), (42937, 42937), (42939, 42939), (42941,
  42941), (42943, 42943), (42945, 42945), (42947, 42947), (42952, 42952), (42954, 42954),
  (42961, 42961), (42963, 42963), (42965, 42965), (42967, 42967), (42969, 42969), (42994,
  42996), (42998, 42998), (43000, 43002), (43824, 43866), (43868, 43881), (43888, 43967),
  (64256, 64262), (64275, 64279), (65345, 65370), (66600, 66639), (66776, 66811), (66967,
  66977), (66979, 66993), (66995, 67001), (67003, 67004), (67456, 67456), (67459, 67461),
  (67463, 67504), (67506, 67514), (68800, 68850), (71872, 71903), (93792, 93823), (119834,
  119859), (119886, 119892), (119894, 119911), (119938, 119963), (119990, 119993), (119995,
  119995), (119997, 120003), (120005, 120015), (120042, 120067), (120094, 120119), (120146,
  120171), (120198, 120223), (120250, 120275), (120302, 120327), (120354, 120379), (120406,
  120431), (120458, 120485), (120514, 120538), (120540, 120545), (120572, 120596), (120598,
  120603), (120630, 120654), (120656, 120661), (120688, 120712), (120714, 120719), (120746,
  120770), (120772, 120777), (120779, 120779), (122624, 122633), (122635, 122654), (122661,
  122666), (122928, 122989), (125218, 125251)]

/-- The code points with the property Lowercase, as ranges. -/
def propertyLowercase : List (Nat × Nat) :=
  propertyLowercase1 ++ propertyLowercase2 ++ propertyLowercase3 ++ propertyLowercase4

/-- The code points with the property Emoji, as ranges. -/
def propertyEmoji : List (Nat × Nat) := [
  (35, 35), (42, 42), (48, 57), (169, 169), (174, 174), (8252, 8252), (8265, 8265), (8482,
  8482), (8505, 8505), (8596, 8601), (8617, 8618), (8986, 8987), (9000, 9000), (9167, 9167),
  (9193, 9203), (9208, 9210), (9410, 9410), (9642, 9643), (9654, 9654), (9664, 9664), (9723,
  9726), (9728, 9732), (9742, 9742), (9745, 9745), (9748, 9749), (9752, 9752), (9757, 9757),
  (9760, 9760), (9762, 9763), (9766, 9766), (9770, 9770), (9774, 9775), (9784, 9786), (9792,
  9792), (9794, 9794), (9800, 9811), (9823, 9824), (9827, 9827), (9829, 9830), (9832, 9832),
  (9851, 9851), (9854, 9855), (9874, 9879), (9881, 9881), (9883, 9884), (9888, 9889), (9895,
  9895), (9898, 9899), (9904, 9905), (9917, 9918), (9924, 9925), (9928, 9928), (9934, 9935),
  (9937, 9937), (9939, 9940), (9961, 9962), (9968, 9973), (9975, 9978), (9981, 9981), (9986,
  9986), (9989, 9989), (9992, 9997), (9999, 9999), (10002, 10002), (10004, 10004), (10006,
  10006), (10013, 10013), (10017, 10017), (10024, 10024), (10035, 10036), (10052, 10052),
  (10055, 10055), (10060, 10060), (10062, 10062), (10067, 10069), (10071, 10071), (10083,
  10084), (10133, 10135), (10145, 10145), (10160, 10160), (10175, 10175), (10548, 10549),
  (11013, 11015), (11035, 11036), (11088, 11088), (11093, 11093), (12336, 12336), (12349,
  12349), (12951, 12951), (12953, 12953), (126980, 126980), (127183, 127183), (127344, 127345),
  (127358, 127359), (127374, 127374), (127377, 127386), (127462, 127487), (127489, 127490),
  (127514, 127514), (127535, 127535), (127538, 127546), (127568, 127569), (127744, 127777),
  (127780, 127891), (127894, 127895), (127897, 127899), (127902, 127984), (127987, 127989),
  (127991, 128253), (128255, 128317), (128329, 128334), (128336, 128359), (128367, 128368),
  (128371, 128378), (128391, 128391), (128394, 128397), (128400, 128400), (128405, 128406),
  (128420, 128421), (128424, 128424), (128433, 128434), (128444, 128444), (128450, 128452),
  (128465, 128467), (128476, 128478), (128481, 128481), (128483, 128483), (128488, 128488),
  (128495, 128495), (128499, 128499), (128506, 128591), (128640, 128709), (128715, 128722),
  (128725, 128727), (128732, 128741), (128745, 128745), (128747, 128748), (128752, 128752),
  (128755, 128764), (128992, 129003), (129008, 129008), (129292, 129338), (129340, 129349),
  (129351, 129535), (129648, 129660), (129664, 129672), (129680, 129725), (129727, 129733),
  (129742, 129755), (129760, 129768), (129776, 129784)]

/-- The code points with the property Emoji_Presentation, as ranges. -/
def propertyEmojiPresentation : List (Nat × Nat) := [
  (8986, 8987), (9193, 9196), (9200, 9200), (9203, 9203), (9725, 9726), (9748, 9749), (9800,
  9811), (9855, 9855), (9875, 9875), (9889, 9889), (9898, 9899), (9917, 9918), (9924, 9925),
  (9934, 9934), (9940, 9940), (9962, 9962), (9970, 9971), (9973, 9973), (9978, 9978), (9981,
  9981), (9989, 9989), (9994, 9995), (10024, 10024), (10060, 10060), (10062, 10062), (10067,
  10069), (10071, 10071), (10133, 10135), (10160, 10160), (10175, 10175), (11035, 11036),
  (11088, 11088), (11093, 11093), (126980, 126980), (127183, 127183), (127374, 127374), (127377,
  127386), (127462, 127487), (127489, 127489), (127514, 127514), (127535, 127535), (127538,
  127542), (127544, 127546), (127568, 127569), (127744, 127776), (127789, 127797), (127799,
  127868), (127870, 127891), (127904, 127946), (127951, 127955), (127968, 127984), (127988,
  127988), (127992, 128062), (128064, 128064), (128066, 128252), (128255, 128317), (128331,
  128334), (128336, 128359), (128378, 128378), (128405, 128406), (128420, 128420), (128507,
  128591), (128640, 128709), (128716, 128716), (128720, 128722), (128725, 128727), (128732,
  128735), (128747, 128748), (128756, 128764), (128992, 129003), (129008, 129008), (129292,
  129338), (129340, 129349), (129351, 129535), (129648, 129660), (129664, 129672), (129680,
  129725), (129727, 129733), (129742, 129755), (129760, 129768), (129776, 129784)]

/-- The code points with the property Emoji_Modifier, as ranges. -/
def propertyEmojiModifier : List (Nat × Nat) := [
  (127995, 127999)]

/-- The code points with the property Extended_Pictographic, as ranges. -/
def propertyExtendedPictographic : List (Nat × Nat) := [
  (169, 169), (174, 174), (8252, 8252), (8265, 8265), (8482, 8482), (8505, 8505), (8596, 8601),
  (8617, 8618), (8986, 8987), (9000, 9000), (9096, 9096), (9167, 9167), (9193, 9203), (9208,
  9210), (9410, 9410), (9642, 9643), (9654, 9654), (9664, 9664), (9723, 9726), (9728, 9733),
  (9735, 9746), (9748, 9861), (9872, 9989), (9992, 10002), (10004, 10004), (10006, 10006),
  (10013, 10013), (10017, 10017), (10024, 10024), (10035, 10036), (10052, 10052), (10055,
  10055), (10060, 10060), (10062, 10062), (10067, 10069), (10071, 10071), (10083, 10087),
  (10133, 10135), (10145, 10145), (10160, 10160), (10175, 10175), (10548, 10549), (11013,
  11015), (11035, 11036), (11088, 11088), (11093, 11093), (12336, 12336), (12349, 12349),
  (12951, 12951), (12953, 12953), (126976, 127231), (127245, 127247), (127279, 127279), (127340,
  127345), (127358, 127359), (127374, 127374), (127377, 127386), (127405, 127461), (127489,
  127503), (127514, 127514), (127535, 127535), (127538, 127546), (127548, 127551), (127561,
  127994), (128000, 128317), (128326, 128591), (128640, 128767), (128884, 128895), (128981,
  129023), (129036, 129039), (129096, 129103), (129114, 129119), (129160, 129167), (129198,
  129279), (129292, 129338), (129340, 129349), (129351, 129791), (130048, 131069)]

/-- The code points with the property Ideographic, as ranges. -/
def propertyIdeographic : List (Nat × Nat) := [
  (12294, 12295), (12321, 12329), (12344, 12346), (13312, 19903), (19968, 40959), (63744,
  64109), (64112, 64217), (94180, 94180), (94208, 100343), (100352, 101589), (101632, 101640),
  (110960, 111355), (131072, 173791), (173824, 177977), (177984, 178205), (178208, 183969),
  (183984, 191456), (194560, 195101), (196608, 201546), (201552, 205743)]

/-- The code points with the property Hex_Digit, as ranges. -/
def propertyHexDigit : List (Nat × Nat) := [
  (48, 57), (65, 70), (97, 102), (65296, 65305), (65313, 65318), (65345, 65350)]

/-- The code points with the property ASCII_Hex_Digit, as ranges. -/
def propertyASCIIHexDigit : List (Nat × Nat) := [
  (48, 57), (65, 70), (97, 102)]

/-- The code points with the property Dash, as ranges. -/
def propertyDash : List (Nat × Nat) := [
  (45, 45), (1418, 1418), (1470, 1470), (5120, 5120), (6150, 6150), (8208, 8213), (8275, 8275),
  (8315, 8315), (8331, 8331), (8722, 8722), (11799, 11799), (11802, 11802), (11834, 11835),
  (11840, 11840), (11869, 11869), (12316, 12316), (12336, 12336), (12448, 12448), (65073,
  65074), (65112, 65112), (65123, 65123), (65293, 65293), (69293, 69293)]

/-- The code points with the property Diacritic, as ranges. -/
def propertyDiacritic : List (Nat × Nat) := [
  (94, 94), (96, 96), (168, 168), (175, 175), (180, 180), (183, 184), (688, 846), (848, 855),
  (861, 866), (884, 885), (890, 890), (900, 901), (1155, 1159), (1369, 1369), (1425, 1441),
  (1443, 1469), (1471, 1471), (1473, 1474), (1476, 1476), (1611, 1618), (1623, 1624), (1759,
  1760), (1765, 1766), (1770, 1772), (1840, 1866), (1958, 1968), (2027, 2037), (2072, 2073),
  (2200, 2207), (2249, 2258), (2275, 2302), (2364, 2364), (2381, 2381), (2385, 2388), (2417,
  2417), (2492, 2492), (2509, 2509), (2620, 2620), (2637, 2637), (2748, 2748), (2765, 2765),
  (2813, 2815), (2876, 2876), (2893, 2893), (2901, 2901), (3021, 3021), (3132, 3132), (3149,
  3149), (3260, 3260), (3277, 3277), (3387, 3388), (3405, 3405), (3530, 3530), (3655, 3660),
  (3662, 3662), (3770, 3770), (3784, 3788), (3864, 3865), (3893, 3893), (3895, 3895), (3897,
  3897), (3902, 3903), (3970, 3972), (3974, 3975), (4038, 4038), (4151, 4151), (4153, 4154),
  (4195, 4196), (4201, 4205), (4231, 4237), (4239, 4239), (4250, 4251), (4957, 4959), (5908,
  5909), (6089, 6099), (6109, 6109), (6457, 6459), (6773, 6780), (6783, 6783), (6832, 6846),
  (6849, 6859), (6964, 6964), (6980, 6980), (7019, 7027), (7082, 7083), (7222, 7223), (7288,
  7293), (7376, 7400), (7405, 7405), (7412, 7412), (7415, 7417), (7468, 7530), (7620, 7631),
  (7669, 7679), (8125, 8125), (8127, 8129), (8141, 8143), (8157, 8159), (8173, 8175), (8189,
  8190), (11503, 11505), (11823, 11823), (12330, 12335), (12441, 12444), (12540, 12540), (42607,
  42607), (42620, 42621), (42623, 42623), (42652, 42653), (42736, 42737), (42752, 42785),
  (42888, 42890), (43000, 43001), (43204, 43204), (43232, 43249), (43307, 43310), (43347,
  43347), (43443, 43443), (43456, 43456), (43493, 43493), (43643, 43645), (43711, 43714),
  (43766, 43766), (43867, 43871), (43881, 43883), (44012, 44013), (64286, 64286), (65056,
  65071), (65342, 65342), (65344, 65344), (65392, 65392), (65438, 65439), (65507, 65507),
  (66272, 66272), (67456, 67461), (67463, 67504), (67506, 67514), (68325, 68326), (68898,
  68903), (69373, 69375), (69446, 69456), (69506, 69509), (69702, 69702), (69744, 69744),
  (69817, 69818), (69939, 69940), (70003, 70003), (70080, 70080), (70090, 70092), (70197,
  70198), (70377, 70378), (70460, 70460), (70477, 70477), (70502, 70508), (70512, 70516),
  (70722, 70722), (70726, 70726), (70850, 70851), (71103, 71104), (71231, 71231), (71350,
  71351), (71467, 71467), (71737, 71738), (71997, 71998), (72003, 72003), (72160, 72160),
  (72244, 72244), (72263, 72263), (72345, 72345), (72767, 72767), (73026, 73026), (73028,
  73029), (73111, 73111), (78919, 78933), (92912, 92916), (92976, 92982), (94095, 94111),
  (94192, 94193), (110576, 110579), (110581, 110587), (110589, 110590), (118528, 118573),
  (118576, 118598), (119143, 119145), (119149, 119154), (119163, 119170), (119173, 119179),
  (119210, 119213), (122928, 122989), (123184, 123190), (123566, 123566), (123628, 123631),
  (125136, 125142), (125252, 125254), (125256, 125258)]

/-- The code points with the property Math, as ranges. -/
def propertyMath : List (Nat × Nat) := [
  (43, 43), (60, 62), (94, 94), (124, 124), (126, 126), (172, 172), (177, 177), (215, 215),
  (247, 247), (976, 978), (981, 981), (1008, 1009), (1012, 1014), (1542, 1544), (8214, 8214),
  (8242, 8244), (8256, 8256), (8260, 8260), (8274, 8274), (8289, 8292), (8314, 8318), (8330,
  8334), (8400, 8412), (8417, 8417), (8421, 8422), (8427, 8431), (8450, 8450), (8455, 8455),
  (8458, 8467), (8469, 8469), (8472, 8477), (8484, 8484), (8488, 8489), (8492, 8493), (8495,
  8497), (8499, 8504), (8508, 8521), (8523, 8523), (8592, 8615), (8617, 8622), (8624, 8625),
  (8630, 8631), (8636, 8667), (8669, 8669), (8676, 8677), (8692, 8959), (8968, 8971), (8992,
  8993), (9084, 9084), (9115, 9141), (9143, 9143), (9168, 9168), (9180, 9186), (9632, 9633),
  (9646, 9655), (9660, 9665), (9670, 9671), (9674, 9675), (9679, 9683), (9698, 9698), (9700,
  9700), (9703, 9708), (9720, 9727), (9733, 9734), (9792, 9792), (9794, 9794), (9824, 9827),
  (9837, 9839), (10176, 10239), (10496, 11007), (11056, 11076), (11079, 11084), (64297, 64297),
  (65121, 65126), (65128, 65128), (65291, 65291), (65308, 65310), (65340, 65340), (65342,
  65342), (65372, 65372), (65374, 65374), (65506, 65506), (65513, 65516), (119808, 119892),
  (119894, 119964), (119966, 119967), (119970, 119970), (119973, 119974), (119977, 119980),
  (119982, 119993), (119995, 119995), (119997, 120003), (120005, 120069), (120071, 120074),
  (120077, 120084), (120086, 120092), (120094, 120121), (120123, 120126), (120128, 120132),
  (120134, 120134), (120138, 120144), (120146, 120485), (120488, 120779), (120782, 120831),
  (126464, 126467), (126469, 126495), (126497, 126498), (126500, 126500), (126503, 126503),
  (126505, 126514), (126516, 126519), (126521, 126521), (126523, 126523), (126530, 126530),
  (126535, 126535), (126537, 126537), (126539, 126539), (126541, 126543), (126545, 126546),
  (126548, 126548), (126551, 126551), (126553, 126553), (126555, 126555), (126557, 126557),
  (126559, 126559), (126561, 126562), (126564, 126564), (126567, 126570), (126572, 126578),
  (126580, 126583), (126585, 126588), (126590, 126590), (126592, 126601), (126603, 126619),
  (126625, 126627), (126629, 126633), (126635, 126651), (126704, 126705)]

/-- The code points with the property Noncharacter_Code_Point, as ranges. -/
def propertyNoncharacterCodePoint : List (Nat × Nat) := [
  (64976, 65007), (65534, 65535), (131070, 131071), (196606, 196607), (262142, 262143), (327678,
  327679), (393214, 393215), (458750, 458751), (524286, 524287), (589822, 589823), (655358,
  655359), (720894, 720895), (786430, 786431), (851966, 851967), (917502, 917503), (983038,
  983039), (1048574, 1048575), (1114110, 1114111)]

/-- The properties: their names in small letters and their code points, as ranges. -/
def binaryProperties : List (List String × List (Nat × Nat)) := [
  (["alphabetic", "alpha"], propertyAlphabetic),
  (["uppercase", "upper"], propertyUppercase),
  (["lowercase", "lower"], propertyLowercase),
  (["emoji"], propertyEmoji),
  (["emojipresentation", "epres"], propertyEmojiPresentation),
  (["emojimodifier", "emod"], propertyEmojiModifier),
  (["extendedpictographic", "extpict"], propertyExtendedPictographic),
  (["ideographic", "ideo"], propertyIdeographic),
  (["hexdigit", "hex"], propertyHexDigit),
  (["asciihexdigit", "ahex"], propertyASCIIHexDigit),
  (["dash"], propertyDash),
  (["diacritic", "dia"], propertyDiacritic),
  (["math"], propertyMath),
  (["noncharactercodepoint", "nchar"], propertyNoncharacterCodePoint)]

end UptimeMonitor.Unicode
