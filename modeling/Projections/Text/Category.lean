/-! General categories of characters, as runs over the whole code space. A run
is kept by its last code point and the category there; long stretches in which
capital and small letters take turns are one run each. -/

namespace Projections.Text

/-- General categories by their two-letter names. -/
inductive Category where
  | lu | ll | lt | lm | lo
  | mn | mc | me
  | nd | nl | no
  | pc | pd | ps | pe | pi | pf | po
  | sm | sc | sk | so
  | zs | zl | zp
  | cc | cf | cs | co | cn
deriving DecidableEq, Repr

namespace Category

private def block0 : List (Nat × Category) := [
  (31, .cc), (32, .zs), (35, .po), (36, .sc), (39, .po), (40, .ps), (41, .pe), (42, .po),
  (43, .sm), (44, .po), (45, .pd), (47, .po), (57, .nd), (59, .po), (62, .sm), (64, .po),
  (90, .lu), (91, .ps), (92, .po), (93, .pe), (94, .sk), (95, .pc), (96, .sk), (122, .ll),
  (123, .ps), (124, .sm), (125, .pe), (126, .sm), (159, .cc), (160, .zs), (161, .po), (165, .sc),
  (166, .so), (167, .po), (168, .sk), (169, .so), (170, .lo), (171, .pi), (172, .sm), (173, .cf),
  (174, .so), (175, .sk), (176, .so), (177, .sm), (179, .no), (180, .sk), (181, .ll), (183, .po),
  (184, .sk), (185, .no), (186, .lo), (187, .pf), (190, .no), (191, .po), (214, .lu), (215, .sm),
  (222, .lu), (246, .ll), (247, .sm), (255, .ll), (310, .lu), (312, .ll), (327, .lu), (329, .ll),
  (375, .ll), (377, .lu), (378, .ll), (379, .lu), (380, .ll), (381, .lu), (384, .ll), (386, .lu),
  (387, .ll), (388, .lu), (389, .ll), (391, .lu), (392, .ll), (395, .lu), (397, .ll), (401, .lu),
  (402, .ll), (404, .lu), (405, .ll), (408, .lu), (411, .ll), (413, .lu), (414, .ll), (416, .lu),
  (417, .ll), (421, .ll), (423, .lu), (424, .ll), (425, .lu), (427, .ll), (428, .lu), (429, .ll),
  (431, .lu), (432, .ll), (435, .lu), (436, .ll), (437, .lu), (438, .ll), (440, .lu), (442, .ll),
  (443, .lo), (444, .lu), (447, .ll), (451, .lo), (452, .lu), (453, .lt), (454, .ll), (455, .lu),
  (456, .lt), (457, .ll), (458, .lu), (459, .lt), (460, .ll), (475, .lu), (477, .ll), (494, .lu),
  (496, .ll), (497, .lu), (498, .lt), (499, .ll), (500, .lu), (501, .ll), (504, .lu), (505, .ll),
  (562, .lu), (569, .ll), (571, .lu), (572, .ll), (574, .lu), (576, .ll), (577, .lu), (578, .ll),
  (582, .lu), (583, .ll), (590, .lu), (659, .ll), (661, .lo), (687, .ll), (705, .lm), (709, .sk),
  (721, .lm), (735, .sk), (740, .lm), (747, .sk), (748, .lm), (749, .sk), (750, .lm), (767, .sk),
  (879, .mn), (883, .ll), (884, .lm), (885, .sk), (886, .lu), (887, .ll), (889, .cn), (890, .lm)]

private def block1 : List (Nat × Category) := [
  (893, .ll), (894, .po), (895, .lu), (899, .cn), (901, .sk), (902, .lu), (903, .po), (906, .lu),
  (907, .cn), (908, .lu), (909, .cn), (911, .lu), (912, .ll), (929, .lu), (930, .cn), (939, .lu),
  (974, .ll), (975, .lu), (977, .ll), (980, .lu), (983, .ll), (1006, .lu), (1011, .ll), (1012, .lu),
  (1013, .ll), (1014, .sm), (1015, .lu), (1016, .ll), (1018, .lu), (1020, .ll), (1071, .lu), (1119, .ll),
  (1153, .ll), (1154, .so), (1159, .mn), (1161, .me), (1215, .ll), (1217, .lu), (1218, .ll), (1229, .lu),
  (1231, .ll), (1327, .ll), (1328, .cn), (1366, .lu), (1368, .cn), (1369, .lm), (1375, .po), (1416, .ll),
  (1417, .po), (1418, .pd), (1420, .cn), (1422, .so), (1423, .sc), (1424, .cn), (1469, .mn), (1470, .pd),
  (1471, .mn), (1472, .po), (1474, .mn), (1475, .po), (1477, .mn), (1478, .po), (1479, .mn), (1487, .cn),
  (1514, .lo), (1518, .cn), (1522, .lo), (1524, .po), (1535, .cn), (1541, .cf), (1544, .sm), (1546, .po),
  (1547, .sc), (1549, .po), (1551, .so), (1562, .mn), (1563, .po), (1564, .cf), (1567, .po), (1599, .lo),
  (1600, .lm), (1610, .lo), (1631, .mn), (1641, .nd), (1645, .po), (1647, .lo), (1648, .mn), (1747, .lo),
  (1748, .po), (1749, .lo), (1756, .mn), (1757, .cf), (1758, .so), (1764, .mn), (1766, .lm), (1768, .mn),
  (1769, .so), (1773, .mn), (1775, .lo), (1785, .nd), (1788, .lo), (1790, .so), (1791, .lo), (1805, .po),
  (1806, .cn), (1807, .cf), (1808, .lo), (1809, .mn), (1839, .lo), (1866, .mn), (1868, .cn), (1957, .lo),
  (1968, .mn), (1969, .lo), (1983, .cn), (1993, .nd), (2026, .lo), (2035, .mn), (2037, .lm), (2038, .so),
  (2041, .po), (2042, .lm), (2044, .cn), (2045, .mn), (2047, .sc), (2069, .lo), (2073, .mn), (2074, .lm),
  (2083, .mn), (2084, .lm), (2087, .mn), (2088, .lm), (2093, .mn), (2095, .cn), (2110, .po), (2111, .cn),
  (2136, .lo), (2139, .mn), (2141, .cn), (2142, .po), (2143, .cn), (2154, .lo), (2159, .cn), (2183, .lo),
  (2184, .sk), (2191, .lo), (2193, .cf), (2198, .cn), (2207, .mn), (2248, .lo), (2249, .lm), (2273, .mn),
  (2274, .cf), (2306, .mn), (2307, .mc), (2361, .lo), (2362, .mn), (2363, .mc), (2364, .mn), (2365, .lo)]

private def block2 : List (Nat × Category) := [
  (2368, .mc), (2376, .mn), (2380, .mc), (2381, .mn), (2383, .mc), (2384, .lo), (2391, .mn), (2401, .lo),
  (2403, .mn), (2405, .po), (2415, .nd), (2416, .po), (2417, .lm), (2432, .lo), (2433, .mn), (2435, .mc),
  (2436, .cn), (2444, .lo), (2446, .cn), (2448, .lo), (2450, .cn), (2472, .lo), (2473, .cn), (2480, .lo),
  (2481, .cn), (2482, .lo), (2485, .cn), (2489, .lo), (2491, .cn), (2492, .mn), (2493, .lo), (2496, .mc),
  (2500, .mn), (2502, .cn), (2504, .mc), (2506, .cn), (2508, .mc), (2509, .mn), (2510, .lo), (2518, .cn),
  (2519, .mc), (2523, .cn), (2525, .lo), (2526, .cn), (2529, .lo), (2531, .mn), (2533, .cn), (2543, .nd),
  (2545, .lo), (2547, .sc), (2553, .no), (2554, .so), (2555, .sc), (2556, .lo), (2557, .po), (2558, .mn),
  (2560, .cn), (2562, .mn), (2563, .mc), (2564, .cn), (2570, .lo), (2574, .cn), (2576, .lo), (2578, .cn),
  (2600, .lo), (2601, .cn), (2608, .lo), (2609, .cn), (2611, .lo), (2612, .cn), (2614, .lo), (2615, .cn),
  (2617, .lo), (2619, .cn), (2620, .mn), (2621, .cn), (2624, .mc), (2626, .mn), (2630, .cn), (2632, .mn),
  (2634, .cn), (2637, .mn), (2640, .cn), (2641, .mn), (2648, .cn), (2652, .lo), (2653, .cn), (2654, .lo),
  (2661, .cn), (2671, .nd), (2673, .mn), (2676, .lo), (2677, .mn), (2678, .po), (2688, .cn), (2690, .mn),
  (2691, .mc), (2692, .cn), (2701, .lo), (2702, .cn), (2705, .lo), (2706, .cn), (2728, .lo), (2729, .cn),
  (2736, .lo), (2737, .cn), (2739, .lo), (2740, .cn), (2745, .lo), (2747, .cn), (2748, .mn), (2749, .lo),
  (2752, .mc), (2757, .mn), (2758, .cn), (2760, .mn), (2761, .mc), (2762, .cn), (2764, .mc), (2765, .mn),
  (2767, .cn), (2768, .lo), (2783, .cn), (2785, .lo), (2787, .mn), (2789, .cn), (2799, .nd), (2800, .po),
  (2801, .sc), (2808, .cn), (2809, .lo), (2815, .mn), (2816, .cn), (2817, .mn), (2819, .mc), (2820, .cn),
  (2828, .lo), (2830, .cn), (2832, .lo), (2834, .cn), (2856, .lo), (2857, .cn), (2864, .lo), (2865, .cn),
  (2867, .lo), (2868, .cn), (2873, .lo), (2875, .cn), (2876, .mn), (2877, .lo), (2878, .mc), (2879, .mn),
  (2880, .mc), (2884, .mn), (2886, .cn), (2888, .mc), (2890, .cn), (2892, .mc), (2893, .mn), (2900, .cn)]

private def block3 : List (Nat × Category) := [
  (2902, .mn), (2903, .mc), (2907, .cn), (2909, .lo), (2910, .cn), (2913, .lo), (2915, .mn), (2917, .cn),
  (2927, .nd), (2928, .so), (2929, .lo), (2935, .no), (2945, .cn), (2946, .mn), (2947, .lo), (2948, .cn),
  (2954, .lo), (2957, .cn), (2960, .lo), (2961, .cn), (2965, .lo), (2968, .cn), (2970, .lo), (2971, .cn),
  (2972, .lo), (2973, .cn), (2975, .lo), (2978, .cn), (2980, .lo), (2983, .cn), (2986, .lo), (2989, .cn),
  (3001, .lo), (3005, .cn), (3007, .mc), (3008, .mn), (3010, .mc), (3013, .cn), (3016, .mc), (3017, .cn),
  (3020, .mc), (3021, .mn), (3023, .cn), (3024, .lo), (3030, .cn), (3031, .mc), (3045, .cn), (3055, .nd),
  (3058, .no), (3064, .so), (3065, .sc), (3066, .so), (3071, .cn), (3072, .mn), (3075, .mc), (3076, .mn),
  (3084, .lo), (3085, .cn), (3088, .lo), (3089, .cn), (3112, .lo), (3113, .cn), (3129, .lo), (3131, .cn),
  (3132, .mn), (3133, .lo), (3136, .mn), (3140, .mc), (3141, .cn), (3144, .mn), (3145, .cn), (3149, .mn),
  (3156, .cn), (3158, .mn), (3159, .cn), (3162, .lo), (3163, .cn), (3165, .lo), (3167, .cn), (3169, .lo),
  (3171, .mn), (3173, .cn), (3183, .nd), (3190, .cn), (3191, .po), (3198, .no), (3199, .so), (3200, .lo),
  (3201, .mn), (3203, .mc), (3204, .po), (3212, .lo), (3213, .cn), (3216, .lo), (3217, .cn), (3240, .lo),
  (3241, .cn), (3251, .lo), (3252, .cn), (3257, .lo), (3259, .cn), (3260, .mn), (3261, .lo), (3262, .mc),
  (3263, .mn), (3268, .mc), (3269, .cn), (3270, .mn), (3272, .mc), (3273, .cn), (3275, .mc), (3277, .mn),
  (3284, .cn), (3286, .mc), (3291, .cn), (3294, .lo), (3295, .cn), (3297, .lo), (3299, .mn), (3301, .cn),
  (3311, .nd), (3312, .cn), (3314, .lo), (3315, .mc), (3327, .cn), (3329, .mn), (3331, .mc), (3340, .lo),
  (3341, .cn), (3344, .lo), (3345, .cn), (3386, .lo), (3388, .mn), (3389, .lo), (3392, .mc), (3396, .mn),
  (3397, .cn), (3400, .mc), (3401, .cn), (3404, .mc), (3405, .mn), (3406, .lo), (3407, .so), (3411, .cn),
  (3414, .lo), (3415, .mc), (3422, .no), (3425, .lo), (3427, .mn), (3429, .cn), (3439, .nd), (3448, .no),
  (3449, .so), (3455, .lo), (3456, .cn), (3457, .mn), (3459, .mc), (3460, .cn), (3478, .lo), (3481, .cn)]

private def block4 : List (Nat × Category) := [
  (3505, .lo), (3506, .cn), (3515, .lo), (3516, .cn), (3517, .lo), (3519, .cn), (3526, .lo), (3529, .cn),
  (3530, .mn), (3534, .cn), (3537, .mc), (3540, .mn), (3541, .cn), (3542, .mn), (3543, .cn), (3551, .mc),
  (3557, .cn), (3567, .nd), (3569, .cn), (3571, .mc), (3572, .po), (3584, .cn), (3632, .lo), (3633, .mn),
  (3635, .lo), (3642, .mn), (3646, .cn), (3647, .sc), (3653, .lo), (3654, .lm), (3662, .mn), (3663, .po),
  (3673, .nd), (3675, .po), (3712, .cn), (3714, .lo), (3715, .cn), (3716, .lo), (3717, .cn), (3722, .lo),
  (3723, .cn), (3747, .lo), (3748, .cn), (3749, .lo), (3750, .cn), (3760, .lo), (3761, .mn), (3763, .lo),
  (3772, .mn), (3773, .lo), (3775, .cn), (3780, .lo), (3781, .cn), (3782, .lm), (3783, .cn), (3790, .mn),
  (3791, .cn), (3801, .nd), (3803, .cn), (3807, .lo), (3839, .cn), (3840, .lo), (3843, .so), (3858, .po),
  (3859, .so), (3860, .po), (3863, .so), (3865, .mn), (3871, .so), (3881, .nd), (3891, .no), (3892, .so),
  (3893, .mn), (3894, .so), (3895, .mn), (3896, .so), (3897, .mn), (3898, .ps), (3899, .pe), (3900, .ps),
  (3901, .pe), (3903, .mc), (3911, .lo), (3912, .cn), (3948, .lo), (3952, .cn), (3966, .mn), (3967, .mc),
  (3972, .mn), (3973, .po), (3975, .mn), (3980, .lo), (3991, .mn), (3992, .cn), (4028, .mn), (4029, .cn),
  (4037, .so), (4038, .mn), (4044, .so), (4045, .cn), (4047, .so), (4052, .po), (4056, .so), (4058, .po),
  (4095, .cn), (4138, .lo), (4140, .mc), (4144, .mn), (4145, .mc), (4151, .mn), (4152, .mc), (4154, .mn),
  (4156, .mc), (4158, .mn), (4159, .lo), (4169, .nd), (4175, .po), (4181, .lo), (4183, .mc), (4185, .mn),
  (4189, .lo), (4192, .mn), (4193, .lo), (4196, .mc), (4198, .lo), (4205, .mc), (4208, .lo), (4212, .mn),
  (4225, .lo), (4226, .mn), (4228, .mc), (4230, .mn), (4236, .mc), (4237, .mn), (4238, .lo), (4239, .mc),
  (4249, .nd), (4252, .mc), (4253, .mn), (4255, .so), (4293, .lu), (4294, .cn), (4295, .lu), (4300, .cn),
  (4301, .lu), (4303, .cn), (4346, .ll), (4347, .po), (4348, .lm), (4351, .ll), (4680, .lo), (4681, .cn),
  (4685, .lo), (4687, .cn), (4694, .lo), (4695, .cn), (4696, .lo), (4697, .cn), (4701, .lo), (4703, .cn)]

private def block5 : List (Nat × Category) := [
  (4744, .lo), (4745, .cn), (4749, .lo), (4751, .cn), (4784, .lo), (4785, .cn), (4789, .lo), (4791, .cn),
  (4798, .lo), (4799, .cn), (4800, .lo), (4801, .cn), (4805, .lo), (4807, .cn), (4822, .lo), (4823, .cn),
  (4880, .lo), (4881, .cn), (4885, .lo), (4887, .cn), (4954, .lo), (4956, .cn), (4959, .mn), (4968, .po),
  (4988, .no), (4991, .cn), (5007, .lo), (5017, .so), (5023, .cn), (5109, .lu), (5111, .cn), (5117, .ll),
  (5119, .cn), (5120, .pd), (5740, .lo), (5741, .so), (5742, .po), (5759, .lo), (5760, .zs), (5786, .lo),
  (5787, .ps), (5788, .pe), (5791, .cn), (5866, .lo), (5869, .po), (5872, .nl), (5880, .lo), (5887, .cn),
  (5905, .lo), (5908, .mn), (5909, .mc), (5918, .cn), (5937, .lo), (5939, .mn), (5940, .mc), (5942, .po),
  (5951, .cn), (5969, .lo), (5971, .mn), (5983, .cn), (5996, .lo), (5997, .cn), (6000, .lo), (6001, .cn),
  (6003, .mn), (6015, .cn), (6067, .lo), (6069, .mn), (6070, .mc), (6077, .mn), (6085, .mc), (6086, .mn),
  (6088, .mc), (6099, .mn), (6102, .po), (6103, .lm), (6106, .po), (6107, .sc), (6108, .lo), (6109, .mn),
  (6111, .cn), (6121, .nd), (6127, .cn), (6137, .no), (6143, .cn), (6149, .po), (6150, .pd), (6154, .po),
  (6157, .mn), (6158, .cf), (6159, .mn), (6169, .nd), (6175, .cn), (6210, .lo), (6211, .lm), (6264, .lo),
  (6271, .cn), (6276, .lo), (6278, .mn), (6312, .lo), (6313, .mn), (6314, .lo), (6319, .cn), (6389, .lo),
  (6399, .cn), (6430, .lo), (6431, .cn), (6434, .mn), (6438, .mc), (6440, .mn), (6443, .mc), (6447, .cn),
  (6449, .mc), (6450, .mn), (6456, .mc), (6459, .mn), (6463, .cn), (6464, .so), (6467, .cn), (6469, .po),
  (6479, .nd), (6509, .lo), (6511, .cn), (6516, .lo), (6527, .cn), (6571, .lo), (6575, .cn), (6601, .lo),
  (6607, .cn), (6617, .nd), (6618, .no), (6621, .cn), (6655, .so), (6678, .lo), (6680, .mn), (6682, .mc),
  (6683, .mn), (6685, .cn), (6687, .po), (6740, .lo), (6741, .mc), (6742, .mn), (6743, .mc), (6750, .mn),
  (6751, .cn), (6752, .mn), (6753, .mc), (6754, .mn), (6756, .mc), (6764, .mn), (6770, .mc), (6780, .mn),
  (6782, .cn), (6783, .mn), (6793, .nd), (6799, .cn), (6809, .nd), (6815, .cn), (6822, .po), (6823, .lm)]

private def block6 : List (Nat × Category) := [
  (6829, .po), (6831, .cn), (6845, .mn), (6846, .me), (6877, .mn), (6879, .cn), (6891, .mn), (6911, .cn),
  (6915, .mn), (6916, .mc), (6963, .lo), (6964, .mn), (6965, .mc), (6970, .mn), (6971, .mc), (6972, .mn),
  (6977, .mc), (6978, .mn), (6980, .mc), (6988, .lo), (6989, .cn), (6991, .po), (7001, .nd), (7008, .po),
  (7018, .so), (7027, .mn), (7036, .so), (7039, .po), (7041, .mn), (7042, .mc), (7072, .lo), (7073, .mc),
  (7077, .mn), (7079, .mc), (7081, .mn), (7082, .mc), (7085, .mn), (7087, .lo), (7097, .nd), (7141, .lo),
  (7142, .mn), (7143, .mc), (7145, .mn), (7148, .mc), (7149, .mn), (7150, .mc), (7153, .mn), (7155, .mc),
  (7163, .cn), (7167, .po), (7203, .lo), (7211, .mc), (7219, .mn), (7221, .mc), (7223, .mn), (7226, .cn),
  (7231, .po), (7241, .nd), (7244, .cn), (7247, .lo), (7257, .nd), (7287, .lo), (7293, .lm), (7295, .po),
  (7304, .ll), (7305, .lu), (7306, .ll), (7311, .cn), (7354, .lu), (7356, .cn), (7359, .lu), (7367, .po),
  (7375, .cn), (7378, .mn), (7379, .po), (7392, .mn), (7393, .mc), (7400, .mn), (7404, .lo), (7405, .mn),
  (7411, .lo), (7412, .mn), (7414, .lo), (7415, .mc), (7417, .mn), (7418, .lo), (7423, .cn), (7467, .ll),
  (7530, .lm), (7543, .ll), (7544, .lm), (7578, .ll), (7615, .lm), (7679, .mn), (7828, .lu), (7837, .ll),
  (7934, .lu), (7943, .ll), (7951, .lu), (7957, .ll), (7959, .cn), (7965, .lu), (7967, .cn), (7975, .ll),
  (7983, .lu), (7991, .ll), (7999, .lu), (8005, .ll), (8007, .cn), (8013, .lu), (8015, .cn), (8023, .ll),
  (8024, .cn), (8025, .lu), (8026, .cn), (8027, .lu), (8028, .cn), (8029, .lu), (8030, .cn), (8031, .lu),
  (8039, .ll), (8047, .lu), (8061, .ll), (8063, .cn), (8071, .ll), (8079, .lt), (8087, .ll), (8095, .lt),
  (8103, .ll), (8111, .lt), (8116, .ll), (8117, .cn), (8119, .ll), (8123, .lu), (8124, .lt), (8125, .sk),
  (8126, .ll), (8129, .sk), (8132, .ll), (8133, .cn), (8135, .ll), (8139, .lu), (8140, .lt), (8143, .sk),
  (8147, .ll), (8149, .cn), (8151, .ll), (8155, .lu), (8156, .cn), (8159, .sk), (8167, .ll), (8172, .lu),
  (8175, .sk), (8177, .cn), (8180, .ll), (8181, .cn), (8183, .ll), (8187, .lu), (8188, .lt), (8190, .sk)]

private def block7 : List (Nat × Category) := [
  (8191, .cn), (8202, .zs), (8207, .cf), (8213, .pd), (8215, .po), (8216, .pi), (8217, .pf), (8218, .ps),
  (8220, .pi), (8221, .pf), (8222, .ps), (8223, .pi), (8231, .po), (8232, .zl), (8233, .zp), (8238, .cf),
  (8239, .zs), (8248, .po), (8249, .pi), (8250, .pf), (8254, .po), (8256, .pc), (8259, .po), (8260, .sm),
  (8261, .ps), (8262, .pe), (8273, .po), (8274, .sm), (8275, .po), (8276, .pc), (8286, .po), (8287, .zs),
  (8292, .cf), (8293, .cn), (8303, .cf), (8304, .no), (8305, .lm), (8307, .cn), (8313, .no), (8316, .sm),
  (8317, .ps), (8318, .pe), (8319, .lm), (8329, .no), (8332, .sm), (8333, .ps), (8334, .pe), (8335, .cn),
  (8348, .lm), (8351, .cn), (8385, .sc), (8399, .cn), (8412, .mn), (8416, .me), (8417, .mn), (8420, .me),
  (8432, .mn), (8447, .cn), (8449, .so), (8450, .lu), (8454, .so), (8455, .lu), (8457, .so), (8458, .ll),
  (8461, .lu), (8463, .ll), (8466, .lu), (8467, .ll), (8468, .so), (8469, .lu), (8471, .so), (8472, .sm),
  (8477, .lu), (8483, .so), (8484, .lu), (8485, .so), (8486, .lu), (8487, .so), (8488, .lu), (8489, .so),
  (8493, .lu), (8494, .so), (8495, .ll), (8499, .lu), (8500, .ll), (8504, .lo), (8505, .ll), (8507, .so),
  (8509, .ll), (8511, .lu), (8516, .sm), (8517, .lu), (8521, .ll), (8522, .so), (8523, .sm), (8525, .so),
  (8526, .ll), (8527, .so), (8543, .no), (8578, .nl), (8579, .lu), (8580, .ll), (8584, .nl), (8585, .no),
  (8587, .so), (8591, .cn), (8596, .sm), (8601, .so), (8603, .sm), (8607, .so), (8608, .sm), (8610, .so),
  (8611, .sm), (8613, .so), (8614, .sm), (8621, .so), (8622, .sm), (8653, .so), (8655, .sm), (8657, .so),
  (8658, .sm), (8659, .so), (8660, .sm), (8691, .so), (8959, .sm), (8967, .so), (8968, .ps), (8969, .pe),
  (8970, .ps), (8971, .pe), (8991, .so), (8993, .sm), (9000, .so), (9001, .ps), (9002, .pe), (9083, .so),
  (9084, .sm), (9114, .so), (9139, .sm), (9179, .so), (9185, .sm), (9257, .so), (9279, .cn), (9290, .so),
  (9311, .cn), (9371, .no), (9449, .so), (9471, .no), (9654, .so), (9655, .sm), (9664, .so), (9665, .sm),
  (9719, .so), (9727, .sm), (9838, .so), (9839, .sm), (10087, .so), (10088, .ps), (10089, .pe), (10090, .ps)]

private def block8 : List (Nat × Category) := [
  (10091, .pe), (10092, .ps), (10093, .pe), (10094, .ps), (10095, .pe), (10096, .ps), (10097, .pe), (10098, .ps),
  (10099, .pe), (10100, .ps), (10101, .pe), (10131, .no), (10175, .so), (10180, .sm), (10181, .ps), (10182, .pe),
  (10213, .sm), (10214, .ps), (10215, .pe), (10216, .ps), (10217, .pe), (10218, .ps), (10219, .pe), (10220, .ps),
  (10221, .pe), (10222, .ps), (10223, .pe), (10239, .sm), (10495, .so), (10626, .sm), (10627, .ps), (10628, .pe),
  (10629, .ps), (10630, .pe), (10631, .ps), (10632, .pe), (10633, .ps), (10634, .pe), (10635, .ps), (10636, .pe),
  (10637, .ps), (10638, .pe), (10639, .ps), (10640, .pe), (10641, .ps), (10642, .pe), (10643, .ps), (10644, .pe),
  (10645, .ps), (10646, .pe), (10647, .ps), (10648, .pe), (10711, .sm), (10712, .ps), (10713, .pe), (10714, .ps),
  (10715, .pe), (10747, .sm), (10748, .ps), (10749, .pe), (11007, .sm), (11055, .so), (11076, .sm), (11078, .so),
  (11084, .sm), (11123, .so), (11125, .cn), (11263, .so), (11311, .lu), (11359, .ll), (11360, .lu), (11361, .ll),
  (11364, .lu), (11366, .ll), (11372, .ll), (11376, .lu), (11377, .ll), (11378, .lu), (11380, .ll), (11381, .lu),
  (11387, .ll), (11389, .lm), (11392, .lu), (11393, .ll), (11490, .lu), (11492, .ll), (11498, .so), (11502, .ll),
  (11505, .mn), (11506, .lu), (11507, .ll), (11512, .cn), (11516, .po), (11517, .no), (11519, .po), (11557, .ll),
  (11558, .cn), (11559, .ll), (11564, .cn), (11565, .ll), (11567, .cn), (11623, .lo), (11630, .cn), (11631, .lm),
  (11632, .po), (11646, .cn), (11647, .mn), (11670, .lo), (11679, .cn), (11686, .lo), (11687, .cn), (11694, .lo),
  (11695, .cn), (11702, .lo), (11703, .cn), (11710, .lo), (11711, .cn), (11718, .lo), (11719, .cn), (11726, .lo),
  (11727, .cn), (11734, .lo), (11735, .cn), (11742, .lo), (11743, .cn), (11775, .mn), (11777, .po), (11778, .pi),
  (11779, .pf), (11780, .pi), (11781, .pf), (11784, .po), (11785, .pi), (11786, .pf), (11787, .po), (11788, .pi),
  (11789, .pf), (11798, .po), (11799, .pd), (11801, .po), (11802, .pd), (11803, .po), (11804, .pi), (11805, .pf),
  (11807, .po), (11808, .pi), (11809, .pf), (11810, .ps), (11811, .pe), (11812, .ps), (11813, .pe), (11814, .ps),
  (11815, .pe), (11816, .ps), (11817, .pe), (11822, .po), (11823, .lm), (11833, .po), (11835, .pd), (11839, .po)]

private def block9 : List (Nat × Category) := [
  (11840, .pd), (11841, .po), (11842, .ps), (11855, .po), (11857, .so), (11860, .po), (11861, .ps), (11862, .pe),
  (11863, .ps), (11864, .pe), (11865, .ps), (11866, .pe), (11867, .ps), (11868, .pe), (11869, .pd), (11903, .cn),
  (11929, .so), (11930, .cn), (12019, .so), (12031, .cn), (12245, .so), (12271, .cn), (12287, .so), (12288, .zs),
  (12291, .po), (12292, .so), (12293, .lm), (12294, .lo), (12295, .nl), (12296, .ps), (12297, .pe), (12298, .ps),
  (12299, .pe), (12300, .ps), (12301, .pe), (12302, .ps), (12303, .pe), (12304, .ps), (12305, .pe), (12307, .so),
  (12308, .ps), (12309, .pe), (12310, .ps), (12311, .pe), (12312, .ps), (12313, .pe), (12314, .ps), (12315, .pe),
  (12316, .pd), (12317, .ps), (12319, .pe), (12320, .so), (12329, .nl), (12333, .mn), (12335, .mc), (12336, .pd),
  (12341, .lm), (12343, .so), (12346, .nl), (12347, .lm), (12348, .lo), (12349, .po), (12351, .so), (12352, .cn),
  (12438, .lo), (12440, .cn), (12442, .mn), (12444, .sk), (12446, .lm), (12447, .lo), (12448, .pd), (12538, .lo),
  (12539, .po), (12542, .lm), (12543, .lo), (12548, .cn), (12591, .lo), (12592, .cn), (12686, .lo), (12687, .cn),
  (12689, .so), (12693, .no), (12703, .so), (12735, .lo), (12773, .so), (12782, .cn), (12783, .so), (12799, .lo),
  (12830, .so), (12831, .cn), (12841, .no), (12871, .so), (12879, .no), (12880, .so), (12895, .no), (12927, .so),
  (12937, .no), (12976, .so), (12991, .no), (13311, .so), (19903, .lo), (19967, .so), (40980, .lo), (40981, .lm),
  (42124, .lo), (42127, .cn), (42182, .so), (42191, .cn), (42231, .lo), (42237, .lm), (42239, .po), (42507, .lo),
  (42508, .lm), (42511, .po), (42527, .lo), (42537, .nd), (42539, .lo), (42559, .cn), (42605, .ll), (42606, .lo),
  (42607, .mn), (42610, .me), (42611, .po), (42621, .mn), (42622, .po), (42623, .lm), (42651, .ll), (42653, .lm),
  (42655, .mn), (42725, .lo), (42735, .nl), (42737, .mn), (42743, .po), (42751, .cn), (42774, .sk), (42783, .lm),
  (42785, .sk), (42798, .lu), (42801, .ll), (42863, .ll), (42864, .lm), (42872, .ll), (42876, .ll), (42878, .lu),
  (42879, .ll), (42887, .ll), (42888, .lm), (42890, .sk), (42894, .ll), (42895, .lo), (42896, .lu), (42897, .ll),
  (42898, .lu), (42901, .ll), (42921, .ll), (42926, .lu), (42927, .ll), (42932, .lu), (42933, .ll), (42947, .ll)]

private def block10 : List (Nat × Category) := [
  (42951, .lu), (42952, .ll), (42953, .lu), (42954, .ll), (42956, .lu), (42957, .ll), (42972, .lu), (42992, .cn),
  (42996, .lm), (42997, .lu), (42998, .ll), (42999, .lo), (43001, .lm), (43002, .ll), (43009, .lo), (43010, .mn),
  (43013, .lo), (43014, .mn), (43018, .lo), (43019, .mn), (43042, .lo), (43044, .mc), (43046, .mn), (43047, .mc),
  (43051, .so), (43052, .mn), (43055, .cn), (43061, .no), (43063, .so), (43064, .sc), (43065, .so), (43071, .cn),
  (43123, .lo), (43127, .po), (43135, .cn), (43137, .mc), (43187, .lo), (43203, .mc), (43205, .mn), (43213, .cn),
  (43215, .po), (43225, .nd), (43231, .cn), (43249, .mn), (43255, .lo), (43258, .po), (43259, .lo), (43260, .po),
  (43262, .lo), (43263, .mn), (43273, .nd), (43301, .lo), (43309, .mn), (43311, .po), (43334, .lo), (43345, .mn),
  (43347, .mc), (43358, .cn), (43359, .po), (43388, .lo), (43391, .cn), (43394, .mn), (43395, .mc), (43442, .lo),
  (43443, .mn), (43445, .mc), (43449, .mn), (43451, .mc), (43453, .mn), (43456, .mc), (43469, .po), (43470, .cn),
  (43471, .lm), (43481, .nd), (43485, .cn), (43487, .po), (43492, .lo), (43493, .mn), (43494, .lm), (43503, .lo),
  (43513, .nd), (43518, .lo), (43519, .cn), (43560, .lo), (43566, .mn), (43568, .mc), (43570, .mn), (43572, .mc),
  (43574, .mn), (43583, .cn), (43586, .lo), (43587, .mn), (43595, .lo), (43596, .mn), (43597, .mc), (43599, .cn),
  (43609, .nd), (43611, .cn), (43615, .po), (43631, .lo), (43632, .lm), (43638, .lo), (43641, .so), (43642, .lo),
  (43643, .mc), (43644, .mn), (43645, .mc), (43695, .lo), (43696, .mn), (43697, .lo), (43700, .mn), (43702, .lo),
  (43704, .mn), (43709, .lo), (43711, .mn), (43712, .lo), (43713, .mn), (43714, .lo), (43738, .cn), (43740, .lo),
  (43741, .lm), (43743, .po), (43754, .lo), (43755, .mc), (43757, .mn), (43759, .mc), (43761, .po), (43762, .lo),
  (43764, .lm), (43765, .mc), (43766, .mn), (43776, .cn), (43782, .lo), (43784, .cn), (43790, .lo), (43792, .cn),
  (43798, .lo), (43807, .cn), (43814, .lo), (43815, .cn), (43822, .lo), (43823, .cn), (43866, .ll), (43867, .sk),
  (43871, .lm), (43880, .ll), (43881, .lm), (43883, .sk), (43887, .cn), (43967, .ll), (44002, .lo), (44004, .mc),
  (44005, .mn), (44007, .mc), (44008, .mn), (44010, .mc), (44011, .po), (44012, .mc), (44013, .mn), (44015, .cn)]

private def block11 : List (Nat × Category) := [
  (44025, .nd), (44031, .cn), (55203, .lo), (55215, .cn), (55238, .lo), (55242, .cn), (55291, .lo), (55295, .cn),
  (57343, .cs), (63743, .co), (64109, .lo), (64111, .cn), (64217, .lo), (64255, .cn), (64262, .ll), (64274, .cn),
  (64279, .ll), (64284, .cn), (64285, .lo), (64286, .mn), (64296, .lo), (64297, .sm), (64310, .lo), (64311, .cn),
  (64316, .lo), (64317, .cn), (64318, .lo), (64319, .cn), (64321, .lo), (64322, .cn), (64324, .lo), (64325, .cn),
  (64433, .lo), (64450, .sk), (64466, .so), (64829, .lo), (64830, .pe), (64831, .ps), (64847, .so), (64911, .lo),
  (64913, .so), (64967, .lo), (64975, .so), (65007, .cn), (65019, .lo), (65020, .sc), (65023, .so), (65039, .mn),
  (65046, .po), (65047, .ps), (65048, .pe), (65049, .po), (65055, .cn), (65071, .mn), (65072, .po), (65074, .pd),
  (65076, .pc), (65077, .ps), (65078, .pe), (65079, .ps), (65080, .pe), (65081, .ps), (65082, .pe), (65083, .ps),
  (65084, .pe), (65085, .ps), (65086, .pe), (65087, .ps), (65088, .pe), (65089, .ps), (65090, .pe), (65091, .ps),
  (65092, .pe), (65094, .po), (65095, .ps), (65096, .pe), (65100, .po), (65103, .pc), (65106, .po), (65107, .cn),
  (65111, .po), (65112, .pd), (65113, .ps), (65114, .pe), (65115, .ps), (65116, .pe), (65117, .ps), (65118, .pe),
  (65121, .po), (65122, .sm), (65123, .pd), (65126, .sm), (65127, .cn), (65128, .po), (65129, .sc), (65131, .po),
  (65135, .cn), (65140, .lo), (65141, .cn), (65276, .lo), (65278, .cn), (65279, .cf), (65280, .cn), (65283, .po),
  (65284, .sc), (65287, .po), (65288, .ps), (65289, .pe), (65290, .po), (65291, .sm), (65292, .po), (65293, .pd),
  (65295, .po), (65305, .nd), (65307, .po), (65310, .sm), (65312, .po), (65338, .lu), (65339, .ps), (65340, .po),
  (65341, .pe), (65342, .sk), (65343, .pc), (65344, .sk), (65370, .ll), (65371, .ps), (65372, .sm), (65373, .pe),
  (65374, .sm), (65375, .ps), (65376, .pe), (65377, .po), (65378, .ps), (65379, .pe), (65381, .po), (65391, .lo),
  (65392, .lm), (65437, .lo), (65439, .lm), (65470, .lo), (65473, .cn), (65479, .lo), (65481, .cn), (65487, .lo),
  (65489, .cn), (65495, .lo), (65497, .cn), (65500, .lo), (65503, .cn), (65505, .sc), (65506, .sm), (65507, .sk),
  (65508, .so), (65510, .sc), (65511, .cn), (65512, .so), (65516, .sm), (65518, .so), (65528, .cn), (65531, .cf)]

private def block12 : List (Nat × Category) := [
  (65533, .so), (65535, .cn), (65547, .lo), (65548, .cn), (65574, .lo), (65575, .cn), (65594, .lo), (65595, .cn),
  (65597, .lo), (65598, .cn), (65613, .lo), (65615, .cn), (65629, .lo), (65663, .cn), (65786, .lo), (65791, .cn),
  (65794, .po), (65798, .cn), (65843, .no), (65846, .cn), (65855, .so), (65908, .nl), (65912, .no), (65929, .so),
  (65931, .no), (65934, .so), (65935, .cn), (65948, .so), (65951, .cn), (65952, .so), (65999, .cn), (66044, .so),
  (66045, .mn), (66175, .cn), (66204, .lo), (66207, .cn), (66256, .lo), (66271, .cn), (66272, .mn), (66299, .no),
  (66303, .cn), (66335, .lo), (66339, .no), (66348, .cn), (66368, .lo), (66369, .nl), (66377, .lo), (66378, .nl),
  (66383, .cn), (66421, .lo), (66426, .mn), (66431, .cn), (66461, .lo), (66462, .cn), (66463, .po), (66499, .lo),
  (66503, .cn), (66511, .lo), (66512, .po), (66517, .nl), (66559, .cn), (66599, .lu), (66639, .ll), (66717, .lo),
  (66719, .cn), (66729, .nd), (66735, .cn), (66771, .lu), (66775, .cn), (66811, .ll), (66815, .cn), (66855, .lo),
  (66863, .cn), (66915, .lo), (66926, .cn), (66927, .po), (66938, .lu), (66939, .cn), (66954, .lu), (66955, .cn),
  (66962, .lu), (66963, .cn), (66965, .lu), (66966, .cn), (66977, .ll), (66978, .cn), (66993, .ll), (66994, .cn),
  (67001, .ll), (67002, .cn), (67004, .ll), (67007, .cn), (67059, .lo), (67071, .cn), (67382, .lo), (67391, .cn),
  (67413, .lo), (67423, .cn), (67431, .lo), (67455, .cn), (67461, .lm), (67462, .cn), (67504, .lm), (67505, .cn),
  (67514, .lm), (67583, .cn), (67589, .lo), (67591, .cn), (67592, .lo), (67593, .cn), (67637, .lo), (67638, .cn),
  (67640, .lo), (67643, .cn), (67644, .lo), (67646, .cn), (67669, .lo), (67670, .cn), (67671, .po), (67679, .no),
  (67702, .lo), (67704, .so), (67711, .no), (67742, .lo), (67750, .cn), (67759, .no), (67807, .cn), (67826, .lo),
  (67827, .cn), (67829, .lo), (67834, .cn), (67839, .no), (67861, .lo), (67867, .no), (67870, .cn), (67871, .po),
  (67897, .lo), (67902, .cn), (67903, .po), (67929, .lo), (67967, .cn), (68023, .lo), (68027, .cn), (68029, .no),
  (68031, .lo), (68047, .no), (68049, .cn), (68095, .no), (68096, .lo), (68099, .mn), (68100, .cn), (68102, .mn),
  (68107, .cn), (68111, .mn), (68115, .lo), (68116, .cn), (68119, .lo), (68120, .cn), (68149, .lo), (68151, .cn)]

private def block13 : List (Nat × Category) := [
  (68154, .mn), (68158, .cn), (68159, .mn), (68168, .no), (68175, .cn), (68184, .po), (68191, .cn), (68220, .lo),
  (68222, .no), (68223, .po), (68252, .lo), (68255, .no), (68287, .cn), (68295, .lo), (68296, .so), (68324, .lo),
  (68326, .mn), (68330, .cn), (68335, .no), (68342, .po), (68351, .cn), (68405, .lo), (68408, .cn), (68415, .po),
  (68437, .lo), (68439, .cn), (68447, .no), (68466, .lo), (68471, .cn), (68479, .no), (68497, .lo), (68504, .cn),
  (68508, .po), (68520, .cn), (68527, .no), (68607, .cn), (68680, .lo), (68735, .cn), (68786, .lu), (68799, .cn),
  (68850, .ll), (68857, .cn), (68863, .no), (68899, .lo), (68903, .mn), (68911, .cn), (68921, .nd), (68927, .cn),
  (68937, .nd), (68941, .lo), (68942, .lm), (68943, .lo), (68965, .lu), (68968, .cn), (68973, .mn), (68974, .pd),
  (68975, .lm), (68997, .ll), (69005, .cn), (69007, .sm), (69215, .cn), (69246, .no), (69247, .cn), (69289, .lo),
  (69290, .cn), (69292, .mn), (69293, .pd), (69295, .cn), (69297, .lo), (69313, .cn), (69316, .lo), (69317, .lm),
  (69319, .lo), (69327, .cn), (69328, .po), (69336, .so), (69369, .cn), (69375, .mn), (69404, .lo), (69414, .no),
  (69415, .lo), (69423, .cn), (69445, .lo), (69456, .mn), (69460, .no), (69465, .po), (69487, .cn), (69505, .lo),
  (69509, .mn), (69513, .po), (69551, .cn), (69572, .lo), (69579, .no), (69599, .cn), (69622, .lo), (69631, .cn),
  (69632, .mc), (69633, .mn), (69634, .mc), (69687, .lo), (69702, .mn), (69709, .po), (69713, .cn), (69733, .no),
  (69743, .nd), (69744, .mn), (69746, .lo), (69748, .mn), (69749, .lo), (69758, .cn), (69761, .mn), (69762, .mc),
  (69807, .lo), (69810, .mc), (69814, .mn), (69816, .mc), (69818, .mn), (69820, .po), (69821, .cf), (69825, .po),
  (69826, .mn), (69836, .cn), (69837, .cf), (69839, .cn), (69864, .lo), (69871, .cn), (69881, .nd), (69887, .cn),
  (69890, .mn), (69926, .lo), (69931, .mn), (69932, .mc), (69940, .mn), (69941, .cn), (69951, .nd), (69955, .po),
  (69956, .lo), (69958, .mc), (69959, .lo), (69967, .cn), (70002, .lo), (70003, .mn), (70005, .po), (70006, .lo),
  (70015, .cn), (70017, .mn), (70018, .mc), (70066, .lo), (70069, .mc), (70078, .mn), (70080, .mc), (70084, .lo),
  (70088, .po), (70092, .mn), (70093, .po), (70094, .mc), (70095, .mn), (70105, .nd), (70106, .lo), (70107, .po)]

private def block14 : List (Nat × Category) := [
  (70108, .lo), (70111, .po), (70112, .cn), (70132, .no), (70143, .cn), (70161, .lo), (70162, .cn), (70187, .lo),
  (70190, .mc), (70193, .mn), (70195, .mc), (70196, .mn), (70197, .mc), (70199, .mn), (70205, .po), (70206, .mn),
  (70208, .lo), (70209, .mn), (70271, .cn), (70278, .lo), (70279, .cn), (70280, .lo), (70281, .cn), (70285, .lo),
  (70286, .cn), (70301, .lo), (70302, .cn), (70312, .lo), (70313, .po), (70319, .cn), (70366, .lo), (70367, .mn),
  (70370, .mc), (70378, .mn), (70383, .cn), (70393, .nd), (70399, .cn), (70401, .mn), (70403, .mc), (70404, .cn),
  (70412, .lo), (70414, .cn), (70416, .lo), (70418, .cn), (70440, .lo), (70441, .cn), (70448, .lo), (70449, .cn),
  (70451, .lo), (70452, .cn), (70457, .lo), (70458, .cn), (70460, .mn), (70461, .lo), (70463, .mc), (70464, .mn),
  (70468, .mc), (70470, .cn), (70472, .mc), (70474, .cn), (70477, .mc), (70479, .cn), (70480, .lo), (70486, .cn),
  (70487, .mc), (70492, .cn), (70497, .lo), (70499, .mc), (70501, .cn), (70508, .mn), (70511, .cn), (70516, .mn),
  (70527, .cn), (70537, .lo), (70538, .cn), (70539, .lo), (70541, .cn), (70542, .lo), (70543, .cn), (70581, .lo),
  (70582, .cn), (70583, .lo), (70586, .mc), (70592, .mn), (70593, .cn), (70594, .mc), (70596, .cn), (70597, .mc),
  (70598, .cn), (70602, .mc), (70603, .cn), (70605, .mc), (70606, .mn), (70607, .mc), (70608, .mn), (70609, .lo),
  (70610, .mn), (70611, .lo), (70613, .po), (70614, .cn), (70616, .po), (70624, .cn), (70626, .mn), (70655, .cn),
  (70708, .lo), (70711, .mc), (70719, .mn), (70721, .mc), (70724, .mn), (70725, .mc), (70726, .mn), (70730, .lo),
  (70735, .po), (70745, .nd), (70747, .po), (70748, .cn), (70749, .po), (70750, .mn), (70753, .lo), (70783, .cn),
  (70831, .lo), (70834, .mc), (70840, .mn), (70841, .mc), (70842, .mn), (70846, .mc), (70848, .mn), (70849, .mc),
  (70851, .mn), (70853, .lo), (70854, .po), (70855, .lo), (70863, .cn), (70873, .nd), (71039, .cn), (71086, .lo),
  (71089, .mc), (71093, .mn), (71095, .cn), (71099, .mc), (71101, .mn), (71102, .mc), (71104, .mn), (71127, .po),
  (71131, .lo), (71133, .mn), (71167, .cn), (71215, .lo), (71218, .mc), (71226, .mn), (71228, .mc), (71229, .mn),
  (71230, .mc), (71232, .mn), (71235, .po), (71236, .lo), (71247, .cn), (71257, .nd), (71263, .cn), (71276, .po)]

private def block15 : List (Nat × Category) := [
  (71295, .cn), (71338, .lo), (71339, .mn), (71340, .mc), (71341, .mn), (71343, .mc), (71349, .mn), (71350, .mc),
  (71351, .mn), (71352, .lo), (71353, .po), (71359, .cn), (71369, .nd), (71375, .cn), (71395, .nd), (71423, .cn),
  (71450, .lo), (71452, .cn), (71453, .mn), (71454, .mc), (71455, .mn), (71457, .mc), (71461, .mn), (71462, .mc),
  (71467, .mn), (71471, .cn), (71481, .nd), (71483, .no), (71486, .po), (71487, .so), (71494, .lo), (71679, .cn),
  (71723, .lo), (71726, .mc), (71735, .mn), (71736, .mc), (71738, .mn), (71739, .po), (71839, .cn), (71871, .lu),
  (71903, .ll), (71913, .nd), (71922, .no), (71934, .cn), (71942, .lo), (71944, .cn), (71945, .lo), (71947, .cn),
  (71955, .lo), (71956, .cn), (71958, .lo), (71959, .cn), (71983, .lo), (71989, .mc), (71990, .cn), (71992, .mc),
  (71994, .cn), (71996, .mn), (71997, .mc), (71998, .mn), (71999, .lo), (72000, .mc), (72001, .lo), (72002, .mc),
  (72003, .mn), (72006, .po), (72015, .cn), (72025, .nd), (72095, .cn), (72103, .lo), (72105, .cn), (72144, .lo),
  (72147, .mc), (72151, .mn), (72153, .cn), (72155, .mn), (72159, .mc), (72160, .mn), (72161, .lo), (72162, .po),
  (72163, .lo), (72164, .mc), (72191, .cn), (72192, .lo), (72202, .mn), (72242, .lo), (72248, .mn), (72249, .mc),
  (72250, .lo), (72254, .mn), (72262, .po), (72263, .mn), (72271, .cn), (72272, .lo), (72278, .mn), (72280, .mc),
  (72283, .mn), (72329, .lo), (72342, .mn), (72343, .mc), (72345, .mn), (72348, .po), (72349, .lo), (72354, .po),
  (72367, .cn), (72440, .lo), (72447, .cn), (72457, .po), (72543, .cn), (72544, .mn), (72545, .mc), (72548, .mn),
  (72549, .mc), (72550, .mn), (72551, .mc), (72639, .cn), (72672, .lo), (72673, .po), (72687, .cn), (72697, .nd),
  (72703, .cn), (72712, .lo), (72713, .cn), (72750, .lo), (72751, .mc), (72758, .mn), (72759, .cn), (72765, .mn),
  (72766, .mc), (72767, .mn), (72768, .lo), (72773, .po), (72783, .cn), (72793, .nd), (72812, .no), (72815, .cn),
  (72817, .po), (72847, .lo), (72849, .cn), (72871, .mn), (72872, .cn), (72873, .mc), (72880, .mn), (72881, .mc),
  (72883, .mn), (72884, .mc), (72886, .mn), (72959, .cn), (72966, .lo), (72967, .cn), (72969, .lo), (72970, .cn),
  (73008, .lo), (73014, .mn), (73017, .cn), (73018, .mn), (73019, .cn), (73021, .mn), (73022, .cn), (73029, .mn)]

private def block16 : List (Nat × Category) := [
  (73030, .lo), (73031, .mn), (73039, .cn), (73049, .nd), (73055, .cn), (73061, .lo), (73062, .cn), (73064, .lo),
  (73065, .cn), (73097, .lo), (73102, .mc), (73103, .cn), (73105, .mn), (73106, .cn), (73108, .mc), (73109, .mn),
  (73110, .mc), (73111, .mn), (73112, .lo), (73119, .cn), (73129, .nd), (73135, .cn), (73176, .lo), (73177, .lm),
  (73179, .lo), (73183, .cn), (73193, .nd), (73439, .cn), (73458, .lo), (73460, .mn), (73462, .mc), (73464, .po),
  (73471, .cn), (73473, .mn), (73474, .lo), (73475, .mc), (73488, .lo), (73489, .cn), (73523, .lo), (73525, .mc),
  (73530, .mn), (73533, .cn), (73535, .mc), (73536, .mn), (73537, .mc), (73538, .mn), (73551, .po), (73561, .nd),
  (73562, .mn), (73647, .cn), (73648, .lo), (73663, .cn), (73684, .no), (73692, .so), (73696, .sc), (73713, .so),
  (73726, .cn), (73727, .po), (74649, .lo), (74751, .cn), (74862, .nl), (74863, .cn), (74868, .po), (74879, .cn),
  (75075, .lo), (77711, .cn), (77808, .lo), (77810, .po), (77823, .cn), (78895, .lo), (78911, .cf), (78912, .mn),
  (78918, .lo), (78933, .mn), (78943, .cn), (82938, .lo), (82943, .cn), (83526, .lo), (90367, .cn), (90397, .lo),
  (90409, .mn), (90412, .mc), (90415, .mn), (90425, .nd), (92159, .cn), (92728, .lo), (92735, .cn), (92766, .lo),
  (92767, .cn), (92777, .nd), (92781, .cn), (92783, .po), (92862, .lo), (92863, .cn), (92873, .nd), (92879, .cn),
  (92909, .lo), (92911, .cn), (92916, .mn), (92917, .po), (92927, .cn), (92975, .lo), (92982, .mn), (92987, .po),
  (92991, .so), (92995, .lm), (92996, .po), (92997, .so), (93007, .cn), (93017, .nd), (93018, .cn), (93025, .no),
  (93026, .cn), (93047, .lo), (93052, .cn), (93071, .lo), (93503, .cn), (93506, .lm), (93546, .lo), (93548, .lm),
  (93551, .po), (93561, .nd), (93759, .cn), (93791, .lu), (93823, .ll), (93846, .no), (93850, .po), (93855, .cn),
  (93880, .lu), (93882, .cn), (93907, .ll), (93951, .cn), (94026, .lo), (94030, .cn), (94031, .mn), (94032, .lo),
  (94087, .mc), (94094, .cn), (94098, .mn), (94111, .lm), (94175, .cn), (94177, .lm), (94178, .po), (94179, .lm),
  (94180, .mn), (94191, .cn), (94193, .mc), (94195, .lm), (94198, .nl), (94207, .cn), (101589, .lo), (101630, .cn),
  (101662, .lo), (101759, .cn), (101874, .lo), (110575, .cn), (110579, .lm), (110580, .cn), (110587, .lm), (110588, .cn)]

private def block17 : List (Nat × Category) := [
  (110590, .lm), (110591, .cn), (110882, .lo), (110897, .cn), (110898, .lo), (110927, .cn), (110930, .lo), (110932, .cn),
  (110933, .lo), (110947, .cn), (110951, .lo), (110959, .cn), (111355, .lo), (113663, .cn), (113770, .lo), (113775, .cn),
  (113788, .lo), (113791, .cn), (113800, .lo), (113807, .cn), (113817, .lo), (113819, .cn), (113820, .so), (113822, .mn),
  (113823, .po), (113827, .cf), (117759, .cn), (117999, .so), (118009, .nd), (118012, .so), (118015, .cn), (118451, .so),
  (118457, .cn), (118480, .so), (118495, .cn), (118511, .so), (118512, .sm), (118527, .cn), (118573, .mn), (118575, .cn),
  (118598, .mn), (118607, .cn), (118723, .so), (118783, .cn), (119029, .so), (119039, .cn), (119078, .so), (119080, .cn),
  (119140, .so), (119142, .mc), (119145, .mn), (119148, .so), (119154, .mc), (119162, .cf), (119170, .mn), (119172, .so),
  (119179, .mn), (119209, .so), (119213, .mn), (119274, .so), (119295, .cn), (119361, .so), (119364, .mn), (119365, .so),
  (119487, .cn), (119507, .no), (119519, .cn), (119539, .no), (119551, .cn), (119638, .so), (119647, .cn), (119672, .no),
  (119807, .cn), (119833, .lu), (119859, .ll), (119885, .lu), (119892, .ll), (119893, .cn), (119911, .ll), (119937, .lu),
  (119963, .ll), (119964, .lu), (119965, .cn), (119967, .lu), (119969, .cn), (119970, .lu), (119972, .cn), (119974, .lu),
  (119976, .cn), (119980, .lu), (119981, .cn), (119989, .lu), (119993, .ll), (119994, .cn), (119995, .ll), (119996, .cn),
  (120003, .ll), (120004, .cn), (120015, .ll), (120041, .lu), (120067, .ll), (120069, .lu), (120070, .cn), (120074, .lu),
  (120076, .cn), (120084, .lu), (120085, .cn), (120092, .lu), (120093, .cn), (120119, .ll), (120121, .lu), (120122, .cn),
  (120126, .lu), (120127, .cn), (120132, .lu), (120133, .cn), (120134, .lu), (120137, .cn), (120144, .lu), (120145, .cn),
  (120171, .ll), (120197, .lu), (120223, .ll), (120249, .lu), (120275, .ll), (120301, .lu), (120327, .ll), (120353, .lu),
  (120379, .ll), (120405, .lu), (120431, .ll), (120457, .lu), (120485, .ll), (120487, .cn), (120512, .lu), (120513, .sm),
  (120538, .ll), (120539, .sm), (120545, .ll), (120570, .lu), (120571, .sm), (120596, .ll), (120597, .sm), (120603, .ll),
  (120628, .lu), (120629, .sm), (120654, .ll), (120655, .sm), (120661, .ll), (120686, .lu), (120687, .sm), (120712, .ll),
  (120713, .sm), (120719, .ll), (120744, .lu), (120745, .sm), (120770, .ll), (120771, .sm), (120777, .ll), (120778, .lu)]

private def block18 : List (Nat × Category) := [
  (120779, .ll), (120781, .cn), (120831, .nd), (121343, .so), (121398, .mn), (121402, .so), (121452, .mn), (121460, .so),
  (121461, .mn), (121475, .so), (121476, .mn), (121478, .so), (121483, .po), (121498, .cn), (121503, .mn), (121504, .cn),
  (121519, .mn), (122623, .cn), (122633, .ll), (122634, .lo), (122654, .ll), (122660, .cn), (122666, .ll), (122879, .cn),
  (122886, .mn), (122887, .cn), (122904, .mn), (122906, .cn), (122913, .mn), (122914, .cn), (122916, .mn), (122917, .cn),
  (122922, .mn), (122927, .cn), (122989, .lm), (123022, .cn), (123023, .mn), (123135, .cn), (123180, .lo), (123183, .cn),
  (123190, .mn), (123197, .lm), (123199, .cn), (123209, .nd), (123213, .cn), (123214, .lo), (123215, .so), (123535, .cn),
  (123565, .lo), (123566, .mn), (123583, .cn), (123627, .lo), (123631, .mn), (123641, .nd), (123646, .cn), (123647, .sc),
  (124111, .cn), (124138, .lo), (124139, .lm), (124143, .mn), (124153, .nd), (124367, .cn), (124397, .lo), (124399, .mn),
  (124400, .lo), (124410, .nd), (124414, .cn), (124415, .po), (124607, .cn), (124638, .lo), (124639, .cn), (124642, .lo),
  (124643, .mn), (124645, .lo), (124646, .mn), (124653, .lo), (124655, .mn), (124660, .lo), (124661, .mn), (124669, .cn),
  (124670, .lo), (124671, .lm), (124895, .cn), (124902, .lo), (124903, .cn), (124907, .lo), (124908, .cn), (124910, .lo),
  (124911, .cn), (124926, .lo), (124927, .cn), (125124, .lo), (125126, .cn), (125135, .no), (125142, .mn), (125183, .cn),
  (125217, .lu), (125251, .ll), (125258, .mn), (125259, .lm), (125263, .cn), (125273, .nd), (125277, .cn), (125279, .po),
  (126064, .cn), (126123, .no), (126124, .so), (126127, .no), (126128, .sc), (126132, .no), (126208, .cn), (126253, .no),
  (126254, .so), (126269, .no), (126463, .cn), (126467, .lo), (126468, .cn), (126495, .lo), (126496, .cn), (126498, .lo),
  (126499, .cn), (126500, .lo), (126502, .cn), (126503, .lo), (126504, .cn), (126514, .lo), (126515, .cn), (126519, .lo),
  (126520, .cn), (126521, .lo), (126522, .cn), (126523, .lo), (126529, .cn), (126530, .lo), (126534, .cn), (126535, .lo),
  (126536, .cn), (126537, .lo), (126538, .cn), (126539, .lo), (126540, .cn), (126543, .lo), (126544, .cn), (126546, .lo),
  (126547, .cn), (126548, .lo), (126550, .cn), (126551, .lo), (126552, .cn), (126553, .lo), (126554, .cn), (126555, .lo),
  (126556, .cn), (126557, .lo), (126558, .cn), (126559, .lo), (126560, .cn), (126562, .lo), (126563, .cn), (126564, .lo)]

private def block19 : List (Nat × Category) := [
  (126566, .cn), (126570, .lo), (126571, .cn), (126578, .lo), (126579, .cn), (126583, .lo), (126584, .cn), (126588, .lo),
  (126589, .cn), (126590, .lo), (126591, .cn), (126601, .lo), (126602, .cn), (126619, .lo), (126624, .cn), (126627, .lo),
  (126628, .cn), (126633, .lo), (126634, .cn), (126651, .lo), (126703, .cn), (126705, .sm), (126975, .cn), (127019, .so),
  (127023, .cn), (127123, .so), (127135, .cn), (127150, .so), (127152, .cn), (127167, .so), (127168, .cn), (127183, .so),
  (127184, .cn), (127221, .so), (127231, .cn), (127244, .no), (127405, .so), (127461, .cn), (127490, .so), (127503, .cn),
  (127547, .so), (127551, .cn), (127560, .so), (127567, .cn), (127569, .so), (127583, .cn), (127589, .so), (127743, .cn),
  (127994, .so), (127999, .sk), (128728, .so), (128731, .cn), (128748, .so), (128751, .cn), (128764, .so), (128767, .cn),
  (128985, .so), (128991, .cn), (129003, .so), (129007, .cn), (129008, .so), (129023, .cn), (129035, .so), (129039, .cn),
  (129095, .so), (129103, .cn), (129113, .so), (129119, .cn), (129159, .so), (129167, .cn), (129197, .so), (129199, .cn),
  (129211, .so), (129215, .cn), (129217, .so), (129231, .cn), (129240, .sm), (129279, .cn), (129623, .so), (129631, .cn),
  (129645, .so), (129647, .cn), (129660, .so), (129663, .cn), (129674, .so), (129677, .cn), (129734, .so), (129735, .cn),
  (129736, .so), (129740, .cn), (129756, .so), (129758, .cn), (129770, .so), (129774, .cn), (129784, .so), (129791, .cn),
  (129938, .so), (129939, .cn), (130031, .so), (130041, .nd), (130042, .so), (131071, .cn), (173791, .lo), (173823, .cn),
  (178205, .lo), (178207, .cn), (183981, .lo), (183983, .cn), (191456, .lo), (191471, .cn), (192093, .lo), (194559, .cn),
  (195101, .lo), (196607, .cn), (201546, .lo), (201551, .cn), (210041, .lo), (917504, .cn), (917505, .cf), (917535, .cn),
  (917631, .cf), (917759, .cn), (917999, .mn), (983039, .cn), (1048573, .co), (1048575, .cn), (1114109, .co), (1114111, .cn)]

private def blocks : List (List (Nat × Category)) := [
  block0, block1, block2, block3, block4, block5, block6, block7,
  block8, block9, block10, block11, block12, block13, block14, block15,
  block16, block17, block18, block19]

/-- The last code points of the runs in which capital and small letters take turns. -/
private def turns : List Nat := [
  310, 327, 375, 421, 475, 494, 562, 590, 883, 1006,
  1153, 1215, 1229, 1327, 7828, 7934, 11372, 11490, 11502, 42605,
  42651, 42798, 42863, 42876, 42887, 42894, 42921, 42947, 42972]

/-- The other member of a pair of capital and small letter. -/
def counterpart : Category → Category
  | .lu => .ll
  | .ll => .lu
  | c => c

/-- The first run that reaches the code point decides, block by block. -/
def ofCode (code : Nat) : Category :=
  match blocks.findSome? fun block => block.find? fun run => code ≤ run.1 with
  | some (last, c) => if turns.contains last && (last - code) % 2 == 1 then c.counterpart else c
  | none => .cn

/-- The code points of a run that belong to kept categories. -/
private def keptOf (keep : Category → Bool) (first last : Nat) (c : Category) :
    List (Nat × Nat) :=
  if keep c != keep c.counterpart && turns.contains last then
    let parity := if keep c then last % 2 else (last + 1) % 2
    ((List.range (last + 1 - first)).map (first + ·)).filterMap fun code =>
      if code % 2 == parity then some (code, code) else none
  else if keep c then [(first, last)]
  else []

/-- The code points of the kept categories, run by run, as closed ranges. -/
def ranges (keep : Category → Bool) : List (Nat × Nat) :=
  (blocks.flatten.foldr (fun run rest (first : Nat) =>
    keptOf keep first run.1 run.2 ++ rest (run.1 + 1)) fun _ => []) 0

end Category

/-- The general category of a character. -/
def category (c : Char) : Category :=
  Category.ofCode c.toNat

end Projections.Text
