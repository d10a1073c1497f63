import Multiscan.Unicode.Table
/-!
# Unicode — age

The version of the standard in which a code point was assigned. Asking for
an age asks for everything assigned by then.
-/

namespace Multiscan.Unicode

/-- Versions, as runs over all code points; `-` is unassigned, as are here the
surrogates, which are no characters. -/
def ageRuns : String :=
  "1_1:1F6 3_0:4 1_1:1E 3_0:8 3_2:1 4_0:1 3_0:12 4_0:3 4_1:B 5_0:E 1_1:59 3_0:5 4_0:2
   1_1:2F 3_0:1 1_1:A 3_0:5 4_0:11 1_1:46 3_0:9 3_2:1 4_0:8 4_1:5 4_0:3 1_1:2 3_0:1
   3_2:D 5_1:4 1_1:2 5_1:2 -:2 1_1:1 5_0:3 1_1:1 7_0:1 -:4 1_1:7 -:1 1_1:1 -:1 1_1:14
   -:1 1_1:2C 5_1:1 1_1:7 3_0:1 3_2:2 1_1:1 3_0:1 1_1:1 3_0:1 1_1:1 3_0:1 1_1:1 3_0:1
   1_1:12 3_1:2 3_2:1 4_0:5 4_1:4 3_0:1 1_1:C 3_0:1 1_1:42 3_0:1 1_1:C 3_0:1 1_1:29
   5_1:1 3_0:2 3_2:2 3_0:4 1_1:35 3_2:2 1_1:2 3_2:2 1_1:2 3_2:2 5_0:1 1_1:1C 3_0:2
   1_1:8 4_1:2 1_1:2 5_0:6 3_2:10 5_0:4 5_1:10 5_2:2 6_0:2 7_0:8 -:1 1_1:26 -:2 1_1:7
   11_0:1 1_1:27 11_0:1 1_1:1 3_0:1 -:2 7_0:2 6_1:1 -:1 2_0:11 4_1:1 2_0:D 1_1:A 5_0:1
   1_1:9 2_0:1 4_1:3 -:8 1_1:1B -:4 11_0:1 1_1:5 -:B 4_0:4 6_1:1 7_0:1 5_1:5 4_1:1
   1_1:1 4_0:9 5_1:5 1_1:1 6_3:1 14_0:1 4_1:1 1_1:1 6_0:1 1_1:1A 5_1:5 1_1:13 3_0:3
   4_0:3 4_1:6 6_0:1 1_1:E 3_2:2 1_1:48 3_0:2 1_1:5 3_0:1 1_1:F 3_0:1 1_1:1E 4_0:2
   1_1:A 3_0:5 4_0:1 3_0:E -:1 3_0:1E 4_0:3 3_0:1B -:2 4_0:3 4_1:1E 5_1:12 3_0:31 3_2:1
   -:E 5_0:3B -:2 11_0:3 5_2:2E -:2 5_2:F -:1 6_0:1C -:2 6_0:1 -:1 10_0:B -:5 14_0:1F
   -:1 14_0:2 -:5 16_0:1 14_0:8 6_1:1 7_0:1 6_1:B 7_0:6 8_0:2 14_0:1 9_0:8 13_0:A
   14_0:B 11_0:1 9_0:F 8_0:1 6_1:1B 7_0:1 5_2:1 1_1:3 4_0:1 1_1:35 6_0:2 1_1:12 5_2:1
   6_0:1 1_1:5 5_2:1 6_0:2 1_1:19 5_1:2 6_0:5 7_0:1 5_2:2 5_0:2 4_1:1 5_0:2 7_0:1 1_1:3
   -:1 1_1:8 -:2 1_1:2 -:2 1_1:16 -:1 1_1:7 -:1 1_1:1 -:3 1_1:4 -:2 1_1:1 4_0:1 1_1:7
   -:2 1_1:2 -:2 1_1:3 4_1:1 -:8 1_1:1 -:4 1_1:2 -:1 1_1:5 -:2 1_1:15 5_2:1 10_0:2
   11_0:1 -:2 4_0:1 1_1:1 4_0:1 -:1 1_1:6 -:4 1_1:2 -:2 1_1:16 -:1 1_1:7 -:1 1_1:2 -:1
   1_1:2 -:1 1_1:2 -:2 1_1:1 -:1 1_1:5 -:4 1_1:2 -:2 1_1:3 -:3 5_1:1 -:7 1_1:4 -:1
   1_1:1 -:7 1_1:F 5_1:1 11_0:1 -:A 1_1:3 -:1 1_1:7 4_0:1 1_1:1 -:1 1_1:3 -:1 1_1:16
   -:1 1_1:7 -:1 1_1:2 -:1 1_1:5 -:2 1_1:A -:1 1_1:3 -:1 1_1:3 -:2 1_1:1 -:F 1_1:1
   4_0:3 -:2 1_1:A 6_1:1 4_0:1 -:7 8_0:1 10_0:6 -:1 1_1:3 -:1 1_1:8 -:2 1_1:2 -:2
   1_1:16 -:1 1_1:7 -:1 1_1:2 -:1 4_0:1 1_1:4 -:2 1_1:8 5_1:1 -:2 1_1:2 -:2 1_1:3 -:7
   13_0:1 1_1:2 -:4 1_1:2 -:1 1_1:3 5_1:2 -:2 1_1:B 4_0:1 6_0:6 -:A 1_1:2 -:1 1_1:6 -:3
   1_1:3 -:1 1_1:4 -:3 1_1:2 -:1 1_1:1 -:1 1_1:2 -:3 1_1:2 -:3 1_1:3 -:3 1_1:8 4_1:1
   1_1:3 -:4 1_1:5 -:3 1_1:3 -:1 1_1:4 -:2 5_1:1 -:6 1_1:1 -:E 4_1:1 1_1:C 4_0:8 -:5
   7_0:1 1_1:3 11_0:1 1_1:8 -:1 1_1:3 -:1 1_1:17 -:1 1_1:A 7_0:1 1_1:5 -:2 14_0:1 5_1:1
   1_1:7 -:1 1_1:3 -:1 1_1:4 -:7 1_1:2 -:1 5_1:2 8_0:1 -:2 14_0:1 -:2 1_1:2 5_1:2 -:2
   1_1:A -:7 12_0:1 5_1:8 9_0:1 7_0:1 1_1:2 11_0:1 1_1:8 -:1 1_1:3 -:1 1_1:17 -:1 1_1:A
   -:1 1_1:5 -:2 4_0:2 1_1:7 -:1 1_1:3 -:1 1_1:4 -:7 1_1:2 -:6 14_0:1 1_1:1 -:1 1_1:2
   5_0:2 -:2 1_1:A -:1 5_0:2 15_0:1 -:C 10_0:1 7_0:1 1_1:2 13_0:1 1_1:8 -:1 1_1:3 -:1
   1_1:17 6_0:1 1_1:10 6_0:1 10_0:2 5_1:1 1_1:6 5_1:1 -:1 1_1:3 -:1 1_1:4 6_0:1 9_0:1
   -:4 9_0:3 1_1:1 9_0:7 8_0:1 1_1:2 5_1:2 -:2 1_1:A 5_1:6 9_0:3 5_1:7 -:1 13_0:1 3_0:2
   -:1 3_0:12 -:3 3_0:18 -:1 3_0:9 -:1 3_0:1 -:2 3_0:7 -:3 3_0:1 -:4 3_0:6 -:1 3_0:1
   -:1 3_0:8 -:6 7_0:A -:2 3_0:3 -:C 1_1:3A -:4 1_1:1D -:25 1_1:2 -:1 1_1:1 -:1 12_0:1
   1_1:2 12_0:1 1_1:1 -:1 12_0:1 1_1:1 12_0:6 1_1:4 12_0:1 1_1:7 12_0:1 1_1:3 -:1 1_1:1
   -:1 1_1:1 12_0:2 1_1:2 12_0:1 1_1:D 12_0:1 1_1:3 -:2 1_1:5 -:1 1_1:1 -:1 1_1:6
   15_0:1 -:1 1_1:A -:2 1_1:2 6_1:2 -:20 2_0:48 -:1 2_0:21 3_0:1 5_1:2 -:4 2_0:1B 6_0:4
   2_0:6 3_0:1 2_0:1 -:1 2_0:15 3_0:3 2_0:7 3_0:1 2_0:1 3_0:3 -:1 3_0:F -:1 5_1:1 3_0:1
   4_1:2 5_1:3 5_2:4 6_0:2 -:25 3_0:22 5_1:1 3_0:5 5_1:1 3_0:2 5_1:1 3_0:7 5_1:3 3_0:4
   5_1:6 3_0:1A 5_1:40 5_2:4 5_1:2 1_1:26 -:1 6_1:1 -:5 6_1:1 -:2 1_1:27 3_2:2 4_1:2
   1_1:1 4_1:1 6_1:3 1_1:5A 5_2:5 1_1:44 5_2:5 1_1:52 5_2:6 3_0:7 4_1:1 3_0:3F 4_1:1
   3_0:1 -:1 3_0:4 -:2 3_0:7 -:1 3_0:1 -:1 3_0:4 -:2 3_0:27 4_1:1 3_0:1 -:1 3_0:4 -:2
   3_0:1F 4_1:1 3_0:1 -:1 3_0:4 -:2 3_0:7 -:1 3_0:1 -:1 3_0:4 -:2 3_0:7 4_1:1 3_0:7 -:1
   3_0:17 4_1:1 3_0:1F 4_1:1 3_0:1 -:1 3_0:4 -:2 3_0:7 4_1:1 3_0:27 4_1:1 3_0:13 -:2
   6_0:2 4_1:2 3_0:1C -:3 4_1:1A -:6 3_0:55 8_0:1 -:2 8_0:6 -:2 5_2:1 3_0:276 5_2:9
   3_0:1D -:3 3_0:51 7_0:8 -:7 3_2:D 14_0:1 3_2:7 14_0:1 -:9 14_0:1 3_2:17 -:9 3_2:14
   -:C 3_2:D -:1 3_2:3 -:1 3_2:2 -:C 3_0:5D 4_0:1 -:2 3_0:A -:6 4_0:A -:6 3_0:F 14_0:1
   3_0:A -:6 3_0:58 11_0:1 -:7 3_0:2A 5_1:1 -:5 5_2:46 -:A 4_0:1D 7_0:2 -:1 4_0:C -:4
   4_0:C -:4 4_0:1 -:3 4_0:2A -:2 4_0:5 -:B 4_1:2A 5_2:2 -:4 4_1:1A -:6 4_1:A 5_2:1 -:3
   4_1:2 4_0:20 4_1:1C -:2 4_1:2 5_2:3F -:1 5_2:1D -:2 5_2:B -:6 5_2:A -:6 5_2:E -:2
   7_0:F 13_0:2 14_0:E -:31 5_0:4C 14_0:1 -:1 16_0:2 5_0:2D 14_0:2 16_0:1 5_1:2B 6_1:3
   5_1:C 6_1:6 6_0:34 -:8 6_0:4 5_1:38 -:3 5_1:F -:3 5_1:33 9_0:9 16_0:2 -:5 11_0:2B
   -:2 11_0:3 6_1:8 -:8 5_2:23 6_1:4 10_0:1 7_0:2 12_0:1 -:5 4_0:6C 4_1:58 5_0:7 5_1:1C
   7_0:F 10_0:4 14_0:1 9_0:1 6_0:1 5_2:1 5_0:2 1_1:9B 2_0:1 5_1:4 1_1:5A 5_1:6 1_1:16
   -:2 1_1:6 -:2 1_1:26 -:2 1_1:6 -:2 1_1:8 -:1 1_1:1 -:1 1_1:1 -:1 1_1:1 -:1 1_1:1F
   -:2 1_1:35 -:1 1_1:F -:1 1_1:E -:2 1_1:6 -:1 1_1:13 -:2 1_1:3 -:1 1_1:9 -:1 1_1:2F
   3_0:1 1_1:17 3_2:1 3_0:6 3_2:5 4_0:2 4_1:2 3_2:1 4_1:7 3_2:5 5_1:1 -:1 6_3:4 1_1:7
   3_2:1 -:2 1_1:1B -:1 4_1:5 6_0:8 -:3 1_1:B 2_0:1 2_1:1 3_0:3 3_2:2 4_1:4 5_2:3 6_0:1
   6_2:1 7_0:3 8_0:1 10_0:1 14_0:1 -:F 1_1:12 3_0:2 3_2:7 4_1:1 5_0:4 5_1:1 -:F 1_1:39
   3_0:2 4_0:1 4_1:1 3_2:F 4_1:1 5_0:2 5_1:1 5_2:3 1_1:30 3_0:1 5_0:1 5_1:4 5_2:1 8_0:2
   -:4 1_1:5B 3_0:9 3_2:C 1_1:F2 3_2:E 1_1:1 3_0:1 1_1:79 3_0:1 3_2:1 3_0:1E 3_2:34
   4_0:2 4_1:B 5_0:C 5_2:1 6_0:B 7_0:7 9_0:4 10_0:1 1_1:25 3_0:2 16_0:3 -:16 1_1:B -:15
   1_1:8B 3_2:14 4_0:1 1_1:96 3_2:A 1_1:50 3_0:8 3_2:8 1_1:14 4_0:2 3_2:2 4_1:1 3_0:1
   1_1:56 3_0:2 3_2:C 4_1:2 3_2:A 4_0:8 4_1:B 5_1:1 5_2:2 4_0:2 4_1:10 5_0:1 5_1:A
   5_2:3 5_1:4 5_2:A 6_0:1 5_2:13 6_0:1 5_2:1 6_0:4 5_2:18 7_0:1 1_1:4 6_0:1 1_1:4
   6_0:2 1_1:1C 6_0:1 1_1:23 6_0:1 1_1:1 6_0:1 1_1:4 6_0:3 1_1:1 5_2:1 1_1:7 6_0:2
   1_1:7 3_2:E 1_1:1F 6_0:3 1_1:18 6_0:1 1_1:E 6_0:1 4_1:7 5_0:4 6_1:1 5_1:1 6_1:1
   6_0:2 3_2:1C 5_1:4 3_2:10 3_0:100 3_2:200 4_0:E 4_1:6 5_0:7 5_1:5 5_0:4 5_1:29 7_0:3
   5_1:5 5_2:5 7_0:1A -:2 7_0:20 -:1 13_0:1 7_0:22 11_0:3 7_0:C 12_0:1 7_0:8 10_0:1
   11_0:19 8_0:4 11_0:F 12_0:1 4_1:2F 14_0:1 4_1:2F 14_0:1 5_0:D 5_1:3 5_2:1 5_1:3
   5_0:4 5_1:6 5_2:2 4_1:6B 5_2:7 6_1:2 -:5 4_1:2D -:1 6_1:1 -:5 6_1:1 -:2 4_1:36 6_1:2
   -:7 4_1:1 6_0:1 -:E 6_0:1 4_1:17 -:9 4_1:7 -:1 4_1:7 -:1 4_1:7 -:1 4_1:7 -:1 4_1:7
   -:1 4_1:7 -:1 4_1:7 -:1 4_1:7 -:1 5_1:20 4_1:18 5_1:4 4_1:2 5_1:13 5_2:1 6_1:A 7_0:7
   9_0:2 10_0:5 11_0:5 12_0:1 13_0:3 14_0:B -:22 3_0:1A -:1 3_0:59 -:C 3_0:D6 -:1A
   3_0:C 15_1:4 1_1:38 3_0:3 3_2:3 3_0:1 1_1:1 -:1 1_1:54 3_2:2 -:2 1_1:6 3_2:2 1_1:5E
   3_2:1 -:5 1_1:28 5_1:1 10_0:1 11_0:1 -:1 1_1:5E -:1 1_1:10 3_0:18 6_0:3 13_0:5
   4_1:10 5_1:14 16_0:2 -:9 15_1:1 3_2:10 1_1:1D 4_0:2 -:1 1_1:24 5_2:C 4_0:1 3_2:F
   1_1:1C 4_0:2 4_1:1 1_1:32 3_2:F 1_1:C 4_0:4 1_1:2F 12_1:1 1_1:77 4_0:4 1_1:63 4_0:2
   1_1:1F 4_0:1 3_0:19B6 13_0:A 4_0:40 1_1:51A6 4_1:16 5_1:8 5_2:8 6_1:1 8_0:9 10_0:15
   11_0:5 13_0:D 14_0:3 3_0:48D -:3 3_0:12 3_2:2 3_0:10 3_2:1 3_0:C 3_2:1 3_0:3 3_2:1
   3_0:1 -:9 5_2:30 5_1:12C -:14 5_1:20 6_0:2 5_1:12 6_1:8 5_1:1C 7_0:6 8_0:1 6_1:1
   5_2:58 -:8 4_1:17 5_0:4 5_1:5 5_0:2 5_1:6B 6_0:2 8_0:1 6_0:2 6_1:2 7_0:C 6_0:A 6_1:1
   7_0:3 9_0:1 11_0:1 7_0:2 8_0:6 11_0:2 12_0:6 14_0:2 12_0:5 13_0:4 16_0:3 -:2 14_0:2
   -:1 14_0:1 -:1 14_0:5 16_0:3 -:15 14_0:3 13_0:2 7_0:1 6_1:2 6_0:1 5_1:5 4_1:2C
   13_0:1 -:3 5_2:A -:6 5_0:38 -:8 5_1:45 9_0:1 -:8 5_1:C -:6 5_2:1C 8_0:2 11_0:2
   5_1:54 -:B 5_1:1 5_2:1D -:3 5_2:4E -:1 5_2:B -:4 5_2:2 7_0:1F -:1 5_1:37 -:9 5_1:E
   -:2 5_1:A -:2 5_1:4 5_2:1C 7_0:4 5_2:43 -:18 5_2:5 6_1:17 -:A 6_0:6 -:2 6_0:6 -:2
   6_0:6 -:9 6_0:7 -:1 6_0:7 -:1 7_0:30 8_0:4 7_0:2 12_0:2 13_0:4 -:4 8_0:50 5_2:2E -:2
   5_2:A -:6 2_0:2BA4 -:C 5_2:17 -:4 5_2:31 -:804 1_1:1A2E 6_1:2 3_2:3B 5_2:3 -:2
   4_1:6A -:26 1_1:7 -:C 1_1:5 -:5 3_0:1 1_1:19 -:1 1_1:5 -:1 1_1:1 -:1 1_1:2 -:1 1_1:2
   -:1 1_1:6C 6_0:10 14_0:1 -:10 1_1:16D 14_0:10 1_1:40 -:2 1_1:36 -:7 14_0:1 3_1:20
   1_1:C 3_2:1 4_0:1 14_0:2 3_2:10 4_1:A -:6 1_1:4 5_1:3 7_0:7 8_0:2 1_1:15 3_2:2 4_0:2
   1_1:A -:1 1_1:13 -:1 1_1:4 -:4 1_1:3 3_2:1 1_1:1 -:1 1_1:87 -:2 1_1:1 -:1 1_1:5E
   3_2:2 1_1:5E -:3 1_1:6 -:2 1_1:6 -:2 1_1:6 -:2 1_1:3 -:3 1_1:7 -:1 1_1:7 -:A 3_0:3
   2_1:1 1_1:3 4_0:C -:1 4_0:1A -:1 4_0:13 -:1 4_0:2 -:1 4_0:F -:2 4_0:E -:22 4_0:7B
   -:5 4_0:3 -:4 4_0:2D -:3 4_0:9 4_1:4B 7_0:2 9_0:2 -:1 5_1:C 13_0:1 -:3 7_0:1 -:2F
   5_1:2E -:82 5_1:1D -:3 5_1:31 -:F 7_0:1C -:4 3_1:1F 7_0:1 3_1:4 -:9 10_0:3 3_1:1B
   -:5 7_0:2B -:5 4_0:1E -:1 4_0:1 4_1:24 -:4 4_1:E -:2A 3_1:26 4_0:2 3_1:26 4_0:50 -:2
   4_0:A -:6 9_0:24 -:4 9_0:24 -:4 7_0:28 -:8 7_0:34 -:B 7_0:1 14_0:B -:1 14_0:F -:1
   14_0:7 -:1 14_0:2 -:1 14_0:B -:1 14_0:F -:1 14_0:7 -:1 14_0:2 -:3 16_0:34 -:C
   7_0:137 -:9 7_0:16 -:A 7_0:8 -:18 14_0:6 -:1 14_0:2A -:1 14_0:9 -:45 4_0:6 -:2 4_0:1
   -:1 4_0:2C -:1 4_0:2 -:3 4_0:1 -:2 4_0:1 5_2:16 -:1 5_2:9 7_0:3F -:8 7_0:9 -:30
   8_0:13 -:1 8_0:2 -:5 8_0:5 5_0:1A 5_2:2 -:3 5_0:1 5_1:1A -:5 5_1:1 -:40 6_1:38 -:4
   8_0:2 6_1:2 8_0:10 -:2 8_0:2E 4_1:4 -:1 4_1:2 -:5 4_1:8 -:1 4_1:3 -:1 4_1:1B 11_0:2
   -:2 4_1:3 -:4 4_1:9 11_0:1 -:7 4_1:9 -:7 5_2:20 7_0:20 -:20 7_0:27 -:4 7_0:C -:9
   5_2:36 -:3 5_2:1D -:2 5_2:1B -:5 5_2:8 7_0:12 -:7 7_0:4 -:C 7_0:7 -:50 5_2:49 -:37
   8_0:33 -:D 8_0:33 -:7 8_0:6 11_0:28 -:8 11_0:A -:6 16_0:26 -:3 16_0:1D -:8 16_0:2
   -:D0 5_2:1F -:1 13_0:2A -:1 13_0:3 -:2 13_0:2 -:10 16_0:3 -:37 16_0:1 15_0:3 11_0:28
   -:8 11_0:2A -:16 14_0:1A -:26 13_0:1C -:14 12_0:17 -:9 6_0:4E -:4 6_0:1E 14_0:6 -:9
   7_0:1 5_2:42 14_0:1 -:A 11_0:1 -:2 6_1:19 -:7 6_1:A -:6 6_1:35 -:1 6_1:E 11_0:3
   13_0:1 -:8 7_0:27 -:9 6_1:49 8_0:4 7_0:1 13_0:2 6_1:A 7_0:1 8_0:5 -:1 7_0:14 -:B
   7_0:12 -:1 7_0:2B 9_0:1 15_0:3 -:3E 8_0:7 -:1 8_0:1 -:1 8_0:4 -:1 8_0:F -:1 8_0:B
   -:6 7_0:3B -:5 7_0:A -:6 8_0:1 7_0:3 -:1 7_0:8 -:2 7_0:2 -:2 7_0:16 -:1 7_0:7 -:1
   7_0:2 -:1 7_0:5 -:1 11_0:1 7_0:9 -:2 7_0:2 -:2 7_0:3 -:2 8_0:1 -:6 7_0:1 -:5 7_0:7
   -:2 7_0:7 -:3 7_0:5 -:B 16_0:A -:1 16_0:1 -:2 16_0:1 -:1 16_0:26 -:1 16_0:A -:1
   16_0:1 -:2 16_0:1 -:1 16_0:4 -:1 16_0:A -:1 16_0:2 -:8 16_0:2 -:1D 9_0:5A 13_0:1
   9_0:1 -:1 9_0:1 11_0:1 12_0:1 13_0:2 -:1E 7_0:48 -:8 7_0:A -:A6 7_0:36 -:2 7_0:12
   8_0:14 -:22 7_0:45 -:B 7_0:A -:6 9_0:D -:13 6_1:38 12_0:1 14_0:1 -:6 6_1:A -:6
   16_0:14 -:1C 8_0:1A 11_0:1 -:2 8_0:F -:4 8_0:10 14_0:7 -:B9 11_0:3C -:64 7_0:53 -:C
   7_0:1 13_0:7 -:2 13_0:1 -:2 13_0:8 -:1 13_0:2 -:1 13_0:1E -:1 13_0:2 -:2 13_0:C -:9
   13_0:A -:46 12_0:8 -:2 12_0:2E -:2 12_0:B -:1B 10_0:48 -:8 10_0:34 12_0:2 10_0:17
   11_0:1 10_0:5 -:D 14_0:10 7_0:39 -:7 15_0:A -:B6 16_0:22 -:E 16_0:A -:6 9_0:9 -:1
   9_0:2D -:1 9_0:E -:A 9_0:1D -:3 9_0:20 -:2 9_0:16 -:1 9_0:E -:49 10_0:7 -:1 10_0:2
   -:1 10_0:2C -:3 10_0:1 -:1 10_0:2 -:1 10_0:9 -:8 10_0:A -:6 11_0:6 -:1 11_0:2 -:1
   11_0:25 -:1 11_0:2 -:1 11_0:6 -:7 11_0:A -:136 11_0:19 -:7 15_0:11 -:1 15_0:29 -:3
   15_0:1C 16_0:1 -:55 13_0:1 -:F 12_0:32 -:D 12_0:1 5_0:36F 7_0:2A 8_0:1 -:66 5_0:63
   7_0:C -:1 5_0:4 7_0:1 -:B 8_0:C4 -:A4C 14_0:63 -:D 5_2:42F 15_0:1 12_0:9 15_0:1D -:A
   16_0:F9B -:5 8_0:247 -:1AB9 16_0:3A -:6C6 6_0:239 -:7 7_0:1F -:1 7_0:A -:4 7_0:2
   14_0:4F -:1 14_0:A -:6 7_0:1E -:2 7_0:6 -:A 7_0:46 -:A 7_0:A -:1 7_0:7 -:1 7_0:15
   -:5 7_0:13 -:1B0 16_0:3A -:C6 11_0:5B -:65 6_1:45 12_0:6 -:4 12_0:1 6_1:2F 12_0:9
   -:7 6_1:11 -:40 9_0:1 10_0:1 12_0:2 13_0:1 -:B 13_0:2 -:E 9_0:17ED 11_0:5 12_0:6 -:8
   9_0:2F3 13_0:1E3 -:29 16_0:1 13_0:9 -:22E7 14_0:4 -:1 14_0:7 -:1 14_0:2 -:1 6_0:2
   10_0:11D 14_0:4 -:F 15_0:1 -:1D 12_0:3 -:2 15_0:1 -:E 12_0:4 -:8 10_0:18C -:904
   7_0:6B -:5 7_0:D -:3 7_0:9 -:7 7_0:A -:2 7_0:8 -:F5C 16_0:FA -:6 16_0:1B4 -:4C
   14_0:2E -:2 14_0:17 -:9 14_0:74 -:3C 3_1:F6 -:A 3_1:27 -:2 5_1:1 3_1:B4 8_0:B 14_0:2
   -:15 4_1:46 -:7A 15_0:14 -:C 11_0:14 -:C 4_0:57 -:9 5_0:12 11_0:7 -:87 3_1:55 -:1
   3_1:47 -:1 3_1:2 -:2 3_1:1 -:2 3_1:2 -:2 3_1:4 -:1 3_1:C -:1 3_1:1 -:1 3_1:4 4_0:1
   3_1:2 -:1 3_1:41 -:1 3_1:4 -:2 3_1:8 -:1 3_1:7 -:1 3_1:1C -:1 3_1:4 -:1 3_1:5 -:1
   3_1:1 -:3 3_1:7 -:1 3_1:152 4_1:2 -:2 3_1:122 5_0:2 -:2 3_1:32 8_0:28C -:F 8_0:5 -:1
   8_0:F -:450 14_0:1F -:6 15_0:6 -:D5 9_0:7 -:1 9_0:11 -:2 9_0:7 -:1 9_0:2 -:1 9_0:5
   -:5 15_0:3E -:21 15_0:1 -:70 12_0:2D -:3 12_0:E -:2 12_0:A -:4 12_0:2 -:140 14_0:1F
   -:11 12_0:3A -:5 12_0:1 -:1D0 15_0:2A -:D6 16_0:2B -:4 16_0:1 -:1E0 14_0:7 -:1
   14_0:4 -:1 14_0:2 -:1 14_0:F -:1 7_0:C5 -:2 7_0:10 -:29 9_0:4B 12_0:1 -:4 9_0:A -:4
   9_0:2 -:311 11_0:44 -:4C 12_0:3D -:C2 6_1:4 -:1 6_1:1B -:1 6_1:2 -:1 6_1:1 -:2 6_1:1
   -:1 6_1:A -:1 6_1:4 -:1 6_1:1 -:1 6_1:1 -:6 6_1:1 -:4 6_1:1 -:1 6_1:1 -:1 6_1:1 -:1
   6_1:3 -:1 6_1:2 -:1 6_1:1 -:2 6_1:1 -:1 6_1:1 -:1 6_1:1 -:1 6_1:1 -:1 6_1:1 -:1
   6_1:2 -:1 6_1:1 -:2 6_1:4 -:1 6_1:7 -:1 6_1:4 -:1 6_1:4 -:1 6_1:1 -:1 6_1:A -:1
   6_1:11 -:5 6_1:3 -:1 6_1:5 -:1 6_1:11 -:34 6_1:2 -:10E 5_1:2C -:4 5_1:64 -:C 6_0:F
   -:2 6_0:E 7_0:1 -:1 6_0:F -:1 6_0:F 7_0:16 -:A 5_2:B 7_0:2 13_0:3 5_2:1F 11_0:1
   6_0:1 5_2:1 6_0:B 5_2:1 6_0:1 5_2:1 6_0:2 5_2:1 6_0:3 5_2:1 6_0:3 5_2:5 6_0:8 5_2:1
   6_0:7 5_2:1 6_0:A 6_1:2 12_0:1 13_0:3 6_0:9 5_2:1 6_0:1 5_2:2 6_0:2 5_2:1 6_0:A
   5_2:4 6_0:2 5_2:1 6_0:A 9_0:12 13_0:1 -:38 6_0:1A 5_2:1 6_0:2 -:D 5_2:22 6_0:9 9_0:1
   -:4 5_2:9 -:7 6_0:2 -:E 10_0:6 -:9A 6_0:21 7_0:C 8_0:3 6_0:6 7_0:1 6_0:46 7_0:1
   8_0:2 6_0:14 7_0:C 6_0:25 7_0:1 6_0:5 7_0:4 8_0:5 7_0:C 6_0:11 7_0:7 8_0:8 6_0:3F
   7_0:1 6_0:1 7_0:1 6_0:B6 7_0:1 6_0:4 7_0:2 8_0:1 6_0:3E 7_0:2 6_1:4 7_0:7 8_0:5
   6_0:18 7_0:12 9_0:1 7_0:29 9_0:1 7_0:56 6_0:5 6_1:1 6_0:10 6_1:1 6_0:3 6_1:1 6_0:1
   6_1:1 6_0:1 6_1:1 6_0:1 6_1:1 6_0:3 6_1:1 6_0:6 6_1:2 6_0:4 6_1:1 6_0:1 6_1:2 6_0:4
   6_1:1 6_0:C 7_0:2 8_0:2 6_0:B 7_0:30 6_0:46 7_0:A 8_0:1 9_0:2 10_0:2 12_0:1 13_0:2
   -:4 15_0:1 14_0:3 7_0:D -:3 7_0:4 9_0:3 10_0:2 11_0:1 12_0:1 13_0:2 -:3 6_0:74
   15_0:3 -:4 15_0:5 7_0:55 11_0:4 15_0:1 -:6 12_0:C -:4 14_0:1 -:F 7_0:C -:4 7_0:38
   -:8 7_0:A -:6 7_0:28 -:8 7_0:1E -:2 13_0:2 16_0:A -:4 16_0:2 -:3E 10_0:C 13_0:1
   12_0:3 8_0:9 9_0:6 10_0:1 9_0:8 10_0:8 9_0:1 10_0:2 9_0:C 12_0:1 9_0:C 10_0:1 11_0:3
   9_0:F 10_0:D 11_0:5 12_0:1 13_0:1 11_0:4 13_0:2 14_0:1 11_0:1 12_0:1 11_0:4 8_0:5
   9_0:D 10_0:6 11_0:B 13_0:2 12_0:6 13_0:3 12_0:2 11_0:A 12_0:6 8_0:1 11_0:2 12_0:8
   13_0:1 14_0:1 12_0:3 10_0:17 11_0:19 12_0:54 -:C 11_0:E -:2 12_0:4 13_0:1 15_0:3
   12_0:3 14_0:2 -:3 12_0:3 13_0:4 15_0:2 16_0:1 -:5 16_0:1 12_0:6 13_0:13 14_0:4
   15_0:3 13_0:7 14_0:4 15_0:3 16_0:1 15_0:1 13_0:3 14_0:3 16_0:1 -:7 15_0:2 13_0:7
   14_0:3 15_0:2 16_0:1 -:2 16_0:1 14_0:8 15_0:1 16_0:1 -:6 14_0:7 15_0:2 -:7 13_0:93
   -:1 13_0:37 16_0:25 13_0:A -:404 2_0:2 3_1:A6D7 13_0:7 14_0:2 -:20 5_2:1035 14_0:4
   15_0:1 -:6 6_0:DE -:2 8_0:1682 -:E 10_0:1D31 -:F 15_1:26E -:9A2 3_1:21E -:5E0 2_0:2
   13_0:134B -:5 15_0:1060 -:DC4E 2_0:2 -:FFFE 2_0:2 -:FFFE 2_0:2 -:FFFE 2_0:2 -:FFFE
   2_0:2 -:FFFE 2_0:2 -:FFFE 2_0:2 -:FFFE 2_0:2 -:FFFE 2_0:2 -:FFFE 2_0:2 -:FFFE 2_0:2
   -:1 3_1:1 -:1E 3_1:60 -:80 4_0:F0 -:FE0E 2_0:20002"

/-- The versions, oldest first. -/
def ages : List String :=
  ["1_1", "2_0", "2_1", "3_0", "3_1", "3_2", "4_0", "4_1", "5_0", "5_1", "5_2", "6_0",
   "6_1", "6_2", "6_3", "7_0", "8_0", "9_0", "10_0", "11_0", "12_0", "12_1", "13_0",
   "14_0", "15_0", "15_1", "16_0"]

/-- The names a version goes by: `V1_1` and `1.1` for `1_1`. -/
def ageNames (version : String) : List String :=
  ["V" ++ version, version.map fun c => if c == '_' then '.' else c]

/-- The code points assigned in the given version or before it. -/
def ageRanges (version : String) : List (Nat × Nat) :=
  rangesWith (runsOfText ageRuns) (ages.takeWhile (· != version) ++ [version])

end Multiscan.Unicode
