import Crowdlending.Text.Blank
import Crowdlending.Text.RunSet

/-!
# Characters in host names

Which characters a host name may have, which stand for others, and the classes by which labels
are judged. A set lists the lengths of the runs of code points outside and inside it, in turn. A
character that stands for others is classed by what it stands for.
-/
namespace Crowdlending.Web.Name.Property
open Text

/-- Left out of a name. -/
def ignored : RunSet := .ofLengths
    "173 1 673 1 3599 2 1619 2 85 5 2043 1 84 5 5 6 4340 1 52379 16 239 1 160 1 48383 4 5327 8
    798597 240"

/-- In no name. -/
def unusable : RunSet := .ofLengths
    "128 32 728 2 6 4 7 1 1 1 20 1 397 1 38 2 50 2 3 1 55 8 27 4 6 17 22 1 192 1 48 2 59 2 101 14 59
    2 49 2 15 1 28 2 1 1 11 5 32 7 75 1 161 1 8 2 2 2 22 1 7 1 1 3 4 2 9 2 2 2 4 8 1 4 2 1 5 2 25 2
    3 1 6 4 2 2 22 1 7 1 2 1 2 1 2 2 1 1 5 4 2 2 3 3 1 7 4 1 1 7 17 10 3 1 9 1 3 1 22 1 7 1 2 1 5 2
    10 1 3 1 3 2 1 15 4 2 12 7 7 1 3 1 8 2 2 2 22 1 7 1 2 1 5 2 9 2 2 2 3 7 3 4 2 1 5 2 18 10 2 1 6
    3 3 1 4 3 2 1 1 1 2 3 2 3 3 3 12 4 5 3 3 1 4 2 1 6 1 14 21 5 13 1 3 1 23 1 16 2 9 1 3 1 4 7 2 1
    3 1 2 2 4 2 10 7 22 1 3 1 23 1 10 1 5 2 9 1 3 1 4 7 2 5 3 1 4 2 10 1 3 12 13 1 3 1 51 1 3 1 6 4
    16 2 26 1 3 1 18 3 24 1 9 1 1 2 7 3 1 4 6 1 1 1 8 6 10 2 3 12 58 4 29 37 2 1 1 1 5 1 24 1 1 1
    23 2 5 1 1 1 7 1 10 2 4 32 72 1 36 4 39 1 36 1 15 1 13 37 198 1 1 5 1 2 377 1 4 2 7 1 1 1 4 2
    41 1 4 2 33 1 4 2 7 1 1 1 4 2 15 1 57 1 4 2 67 2 32 3 26 6 86 2 6 2 640 1 28 3 89 7 22 9 24 9
    20 12 13 1 3 1 2 12 94 2 10 6 10 6 26 6 89 7 43 5 70 10 31 1 12 4 12 4 1 3 42 2 5 11 44 4 26 6
    11 3 62 2 65 1 29 2 11 6 10 6 14 2 46 2 12 20 77 1 166 8 60 3 15 3 62 5 43 2 11 8 43 5 534 2 6
    2 38 2 6 2 8 1 1 1 1 1 1 1 31 2 53 1 15 1 14 2 6 1 19 2 3 1 9 1 14 2 20 3 1 7 54 5 8 2 27 1 13
    3 34 14 33 15 140 4 666 22 11 21 40 20 1752 2 382 5 45 1 1 5 1 2 56 7 2 14 24 9 7 1 7 1 7 1 7 1
    7 1 7 1 7 1 7 1 126 34 26 1 89 12 214 42 64 1 86 2 103 5 43 1 94 1 86 10 47 1 418 1 4 1 16 1
    28852 3 55 9 348 20 184 8 221 20 60 3 10 6 56 8 70 8 12 6 116 11 30 3 78 1 11 4 33 1 55 9 14 2
    10 2 103 24 28 10 6 2 6 2 6 9 7 1 7 1 60 4 126 2 10 6 11172 12 23 4 49 8452 366 2 106 38 7 12 5
    5 26 1 5 1 1 1 2 1 2 1 650 32 34 1 6 7 16 1 33 2 19 1 4 4 5 1 135 2 1 1 190 3 6 2 6 2 6 2 3 3 7
    1 7 17 12 1 26 1 19 1 2 1 15 2 14 34 123 5 3 4 45 3 88 1 13 3 1 47 46 130 29 3 49 15 28 4 36 9
    30 5 43 5 30 1 37 4 14 42 158 2 10 6 36 4 36 4 40 8 52 11 12 1 15 1 7 1 2 1 11 1 15 1 7 1 2 3
    52 12 311 9 22 10 8 24 6 1 42 1 9 69 6 2 1 1 44 1 2 3 1 2 23 1 72 8 9 48 19 1 2 5 33 3 27 5 27
    38 56 4 20 2 50 1 2 5 8 1 3 1 29 2 3 4 10 7 9 7 64 32 39 4 12 9 54 3 29 2 27 5 26 7 4 12 7 80
    73 55 51 13 51 7 46 8 10 6 38 3 29 8 2 208 31 1 42 1 3 2 2 16 6 8 9 33 46 8 42 22 26 38 28 20
    23 9 78 4 36 9 62 1 5 13 25 7 10 6 53 1 18 8 39 9 96 1 20 11 18 1 47 62 7 1 1 1 4 1 15 1 11 6
    59 5 10 6 4 1 8 2 2 2 22 1 7 1 2 1 5 1 10 2 2 2 3 2 1 6 1 5 7 2 7 3 5 11 10 1 1 2 1 1 38 1 10 1
    1 2 1 1 4 1 10 1 2 8 2 29 92 1 5 30 72 8 10 166 54 2 38 34 69 11 10 6 13 19 58 6 10 6 20 28 27
    2 15 4 23 185 60 100 83 12 8 2 1 2 8 1 2 1 30 1 2 2 12 9 10 70 8 2 46 2 11 27 72 8 83 13 73 7
    10 86 8 88 34 14 10 6 9 1 45 1 14 10 29 3 32 2 22 1 14 73 7 1 2 1 44 3 1 1 2 1 9 8 10 6 6 1 2 1
    37 1 2 1 6 7 10 6 44 4 10 246 25 7 17 1 41 3 29 85 1 15 50 13 923 102 111 1 5 11 196 2636 99 13
    1072 16 22 10 3995 5 583 6841 58 1734 569 7 31 1 10 4 81 1 10 6 30 2 6 10 70 10 10 1 7 1 21 5
    19 432 58 198 91 5 25 2 25 44 75 4 57 7 17 64 5 11 7 9 7382 41 32 97 115 8701 4 1 7 1 2 1 291
    15 1 29 3 2 1 14 4 8 396 2308 107 5 13 3 9 7 10 2 8 3932 253 3 436 6 23 15 17 15 46 2 23 9 116
    60 246 10 39 2 194 21 70 122 20 12 20 12 87 9 25 135 85 1 71 1 2 2 1 2 2 2 4 1 12 1 1 1 7 1 65
    1 4 2 8 1 7 1 28 1 4 1 5 1 1 3 7 1 340 2 292 2 702 15 5 1 15 1104 31 6 6 213 7 1 17 2 7 1 2 1 5
    5 62 33 1 112 45 3 14 2 10 4 2 320 31 17 58 5 1 464 42 214 43 4 1 192 31 1 22 8 2 224 7 1 4 1 2
    1 15 1 197 2 16 41 76 4 10 4 2 785 68 76 61 194 4 1 27 1 2 1 1 2 1 1 10 1 4 1 1 1 1 6 1 4 1 1 1
    1 1 1 3 1 2 1 1 2 1 1 1 1 1 1 1 1 1 1 2 1 1 2 4 1 7 1 4 1 4 1 1 1 10 1 17 5 3 1 5 1 17 52 2 270
    44 4 100 12 15 2 15 1 15 1 37 11 173 56 29 13 44 4 9 7 2 14 6 154 985 3 17 3 13 3 218 6 12 4 1
    15 12 4 56 8 10 6 40 8 30 2 12 4 2 14 9 39 344 8 14 2 13 3 11 3 57 1 1 4 16 2 12 4 10 7 147 1
    103 1029 42720 32 4382 2 5774 2 7473 15 622 2466 542 1506 4939 5 8490 707718 240 196112"

/-- Stand for other characters, and so in no label that is written in its final form. -/
def folding : RunSet := .ofLengths
    "160 1 7 1 1 1 4 1 2 4 2 3 1 3 1 23 1 7 33 1 1 1 1 1 1 1 1 1 1 1 1 1 1 1 1 1 1 1 1 1 1 1 1 1 1 1
    1 1 1 1 1 1 1 1 1 1 1 1 1 1 1 1 1 1 1 1 1 1 1 3 1 1 2 1 1 1 1 1 1 3 1 1 1 1 1 1 1 2 1 1 1 1 1 1
    1 1 1 1 1 1 1 1 1 1 1 1 1 1 1 1 1 1 1 1 1 1 1 1 1 1 1 1 1 1 1 1 1 1 1 1 1 1 1 2 1 1 1 1 1 1 1 2
    1 1 1 2 1 3 2 4 1 2 1 3 3 2 1 2 1 1 1 1 1 2 1 1 2 1 1 2 1 3 1 1 1 2 3 1 7 10 1 1 1 1 1 1 1 1 1
    1 1 1 1 1 2 1 1 1 1 1 1 1 1 1 1 1 1 1 1 1 1 1 2 4 1 3 1 1 1 1 1 1 1 1 1 1 1 1 1 1 1 1 1 1 1 1 1
    1 1 1 1 1 1 1 1 1 1 1 1 1 1 1 1 1 1 1 1 1 1 1 1 1 1 1 1 1 1 1 1 1 1 1 1 1 7 2 1 2 2 1 1 4 1 1 1
    1 1 1 1 1 97 9 31 6 2 5 91 2 1 3 42 1 1 1 1 1 1 1 3 1 3 18 1 27 35 8 1 1 1 1 1 1 1 1 1 1 1 1 1
    1 1 1 1 1 1 1 1 1 1 1 1 3 1 2 1 1 1 2 2 51 48 1 1 1 1 1 1 1 1 1 1 1 1 1 1 1 1 1 1 1 1 1 1 1 1 1
    1 1 1 1 1 1 1 1 9 1 1 1 1 1 1 1 1 1 1 1 1 1 1 1 1 1 1 1 1 1 1 1 1 1 1 1 1 1 1 1 1 1 1 1 1 1 1 1
    1 1 1 1 1 1 1 1 1 1 1 1 1 1 1 2 1 1 1 1 1 1 1 1 1 1 1 1 2 1 1 1 1 1 1 1 1 1 1 1 1 1 1 1 1 1 1 1
    1 1 1 1 1 1 1 1 1 1 1 1 1 1 1 1 1 1 1 1 1 1 1 1 1 1 1 1 1 1 1 1 1 1 1 1 1 1 1 1 1 1 1 1 1 1 1 1
    1 1 1 1 1 1 1 1 1 1 1 1 1 1 1 1 1 1 1 1 1 1 1 1 1 1 1 1 2 40 46 1 237 4 735 8 124 4 83 2 1 2 33
    3 2 8 246 3 724 1 127 1 40 2 46 1 54 1 9 1 4 1 4 1 4 1 12 1 9 1 1 5 7 1 17 1 9 1 4 1 4 1 4 1 12
    1 230 48 44 1 763 8 2176 10 6 48 108 3 1 11 1 18 1 28 13 1 34 37 64 1 1 1 1 1 1 1 1 1 1 1 1 1 1
    1 1 1 1 1 1 1 1 1 1 1 1 1 1 1 1 1 1 1 1 1 1 1 1 1 1 1 1 1 1 1 1 1 1 1 1 1 1 1 1 1 1 1 1 1 1 1 1
    1 1 1 1 1 1 1 1 1 1 1 1 1 1 1 1 1 1 1 1 1 1 1 1 1 1 1 1 1 1 1 1 1 1 1 1 1 1 1 1 1 1 1 1 1 1 1 1
    1 1 1 1 1 1 1 1 1 1 1 1 1 1 1 1 1 1 1 1 1 1 1 1 1 1 1 1 1 1 1 1 1 1 1 1 1 1 1 5 2 2 1 1 1 1 1 1
    1 1 1 1 1 1 1 1 1 1 1 1 1 1 1 1 1 1 1 1 1 1 1 1 1 1 1 1 1 1 1 1 1 1 1 1 1 1 1 1 1 1 1 1 1 1 1 1
    1 1 1 1 1 1 1 1 1 1 1 1 1 1 1 1 1 1 1 1 1 1 1 1 1 1 1 1 1 1 1 1 1 1 1 1 1 1 1 1 1 1 1 9 8 8 8 8
    8 8 8 8 8 9 7 8 8 1 1 1 1 1 1 1 1 1 1 1 1 1 51 2 4 1 15 1 9 3 3 2 8 3 1 4 14 1 20 6 1 5 1 23 1
    3 2 1 2 4 1 1 1 8 3 13 1 7 1 16 48 8 1 87 4 1 3 1 11 1 2 2 5 2 3 1 1 1 1 1 1 1 4 1 11 1 6 4 5 6
    48 3 1 5 1 162 2 1 2 248 2 309 139 1313 1 103 3 101 1 291 48 48 1 1 3 2 1 1 1 1 1 1 4 1 1 2 1 6
    5 1 1 1 1 1 1 1 1 1 1 1 1 1 1 1 1 1 1 1 1 1 1 1 1 1 1 1 1 1 1 1 1 1 1 1 1 1 1 1 1 1 1 1 1 1 1 1
    1 1 1 1 1 1 1 1 1 1 1 1 1 1 1 1 1 1 1 1 1 1 1 1 1 1 1 1 1 1 1 1 1 1 1 1 1 1 1 1 1 1 1 1 1 1 1 1
    1 1 1 8 1 1 1 4 1 124 1 303 1 83 270 1 1 51 1 1 3 96 2 2 1 95 6 44 51 1 43 2 14 96 72 8 47 1
    384 29248 1 1 1 1 1 1 1 1 1 1 1 1 1 1 1 1 1 1 1 1 1 1 1 1 1 1 1 1 1 1 1 1 1 1 1 1 1 1 1 1 1 1 1
    1 1 19 1 1 1 1 1 1 1 1 1 1 1 1 1 1 1 1 1 1 1 1 1 1 1 1 1 1 1 1 2 132 1 1 1 1 1 1 1 1 1 1 1 1 1
    3 1 1 1 1 1 1 1 1 1 1 1 1 1 1 1 1 1 1 1 1 1 1 1 1 1 1 1 1 1 1 1 1 1 1 1 1 1 1 1 1 1 1 1 1 1 1 1
    1 1 1 1 1 1 1 1 1 1 1 1 1 1 1 1 8 1 1 1 1 2 1 1 1 1 1 1 1 1 4 1 1 1 2 1 1 1 3 1 1 1 1 1 1 1 1 1
    1 1 1 1 1 1 1 1 1 1 1 5 1 5 1 1 1 1 1 1 1 1 1 1 1 1 1 1 1 4 1 1 1 2 1 1 1 1 1 1 1 1 1 1 1 1 1 1
    1 26 2 2 866 4 9 1 6 80 19776 270 2 1 1 1 2 10 1 1 1 1 2 2 3 244 1 147 33 363 18 64 2 54 40 13
    19 16 17 20 2 44 1 139 2 159 1 95 1024 40 136 40 152 39 490 127 1152 64 144 25 2871 32 21888 32
    64 27 24091 36 1124 7 86 6 575 1024 2096 95 2161 34 1246 240 529 10 5 31 1 32 26 3 35 1 111 96
    2448 10 64518 2048"

/-- What the character stands for begins with a combining mark. -/
def mark : RunSet := .ofLengths
    "768 69 1 42 275 7 263 45 1 1 1 2 1 2 1 9 64 11 48 21 16 1 101 8 1 6 2 2 1 4 35 1 30 29 89 11 58
    9 9 1 24 4 1 9 1 3 1 7 41 5 57 9 42 58 54 3 1 18 1 7 10 2 29 4 55 1 1 16 9 5 6 4 24 7 55 29 23
    2 3 1 11 4 55 1 1 18 18 4 20 11 55 1 1 30 6 4 28 1 59 18 7 15 26 5 55 1 1 26 10 4 27 3 56 1 1
    30 6 4 13 17 55 2 1 16 9 1 10 4 27 4 69 28 12 2 61 1 1 12 8 8 98 1 1 10 11 8 72 2 27 1 1 1 1 1
    4 2 49 20 1 2 5 49 8 1 100 20 23 4 4 3 1 3 2 7 3 4 13 12 1 1 10 4 703 3 946 13 19 3 29 14 18 14
    54 30 9 3 165 2 34 1 118 32 215 7 55 43 48 85 47 17 38 9 12 3 30 13 56 22 40 23 149 3 1 21 4 1
    6 1 2 3 198 64 720 48 3055 3 141 1 96 32 554 6 105 2 30164 4 1 10 32 2 80 2 272 1 3 1 4 1 23 5
    4 4 80 2 50 26 18 18 13 1 38 8 25 24 33 4 47 14 36 1 67 23 3 1 8 4 43 3 50 1 1 3 2 2 5 2 1 1 41
    5 5 12 226 8 1 4 20270 1 769 17 365 3 604 131 96 1 149 10 1665 15 40 8 165 6 569 12 57 5 317 2
    77 6 70 11 49 4 122 3 53 15 41 1 2 2 10 4 45 11 7 14 48 3 36 15 15 2 44 1 12 3 48 14 8 4 1 2 92
    12 6 1 2 63 95 17 16 5 54 2 1 18 7 6 5 30 56 25 1 1 14 31 53 18 23 1 81 20 235 18 27 36 48 17
    106 13 101 19 252 15 245 15 1 1 1 2 141 16 3 28 1 10 40 7 1 4 8 9 1 11 46 16 198 96 111 17 82
    110 49 21 1 9 58 14 347 4 9 2 1 1 48 15 23 86 5264 1 6 25 11454 18 2496 5 59 7 1048 1 1 66 81
    14 19627 2 4705 80 533 5 3 22 2 7 30 4 148 3 1979 55 4 50 8 1 14 1 22 1125 256 48 95 113 48 7
    375 18 44 4 508 4 254 2 243 1 2 1 7 2 5 9 466 48 68 7"

/-- Written from right to left. -/
def rightToLeft : RunSet := .ofLengths
    "1470 1 1 1 2 1 2 1 9 54 2 1 2 1 1 1 13 48 34 3 1 101 15 2 7 2 10 23 1 30 29 89 11 58 9 2 4 3 1
    24 4 1 9 1 3 1 7 41 5 57 9 42 6251 4 55780 1 1 10 1 308 6 218 18 127 33 13 116 1 1 1 3 1 1 1 1
    1 1 1 1 130 2303 287 1 225 15 40 8 165 6 78 7 484 28 41 5 242 32 43 2 77 6 70 11 49 4 122 55296
    208 48 68 7 1445"

/-- Digits that are shown from left to right within text from right to left. -/
def arabicDigit : RunSet := .ofLengths
    "1632 10 1 2 67267 16 288 32"

/-- Digits that are shown from left to right in any text. -/
def europeanDigit : RunSet := .ofLengths
    "48 10 120 2 5 1 2 3 1585 10 6518 1 3 6 6 10 198 16 41 1 726 20 118 1 3430 15 81 27 140 25 111
    31 51985 10 967 31 51696 10 2772 50 6401 10 2789 10"

/-- Take their direction from what surrounds them. -/
def neutral : RunSet := .ofLengths
    "0 48 10 7 26 6 26 47 1 7 2 1 1 3 2 1 3 1 23 1 31 1 449 2 7 14 2 14 5 9 1 17 116 2 4 1 3 1 5 2 1
    1 110 1 403 7 117 2 1 2 1 1 1 2 90 1 115 1 10 1 268 4 504 2 7 1 245 8 250 13 120 7 448 1 250 4
    1106 16 96 1 666 5 315 1 20 32 304 6 152 34 1469 1 1 3 11 3 13 3 13 5 11 115 10 5 11 6 16 8 1
    39 51 2 3 2 10 1 2 2 5 2 3 1 1 1 1 1 1 1 4 1 11 1 5 5 5 4 60 428 69 26 1 202 20 66 53 449 1 339
    256 768 229 6 14 7 256 159 1 83 269 5 3 25 15 1 5 2 5 4 90 2 3 1 90 1 196 48 16 68 7036 64
    22160 64 317 3 99 1 10 2 128 34 102 1 159 4 12 8 52 12 746 6 20409 1 308 6 218 18 127 33 13 35
    17 64 1 1 1 3 1 1 1 1 1 1 1 1 130 15 10 7 26 6 26 11 122 32 257 1 62 77 3 64 1871 1 537 7 1298
    20 1530 32 2389 42 20451 1 23581 214 36 518 745 89 3 123 64 96 865 1 25 1 31 1 25 1 31 1 25 1
    31 1 25 1 31 1 25 1 2875 465 2592 529 10 32 4 1 61 3 61 57 90 16 16 2448 10 1030"

/-- Take their direction from what they are written on. -/
def nonspacing : RunSet := .ofLengths
    "768 69 1 42 275 7 263 45 1 1 1 2 1 2 1 9 64 11 48 21 16 1 101 8 1 6 2 2 1 4 35 1 30 29 89 11 58
    9 9 1 24 4 1 9 1 3 1 7 41 5 57 9 42 57 55 1 1 1 4 8 4 1 3 7 10 2 29 1 58 1 4 6 6 1 20 4 24 5 57
    2 3 24 23 2 3 1 11 2 57 1 4 8 4 3 18 4 20 8 58 1 2 1 1 6 6 10 11 4 28 1 61 1 12 3 48 1 3 1 55 1
    1 3 5 18 10 4 27 1 58 1 15 9 13 4 26 2 57 2 4 5 7 1 20 4 27 1 72 5 3 6 89 1 1 12 8 8 98 1 1 10
    11 8 72 2 27 1 1 1 1 1 55 14 1 5 1 2 5 49 8 1 102 4 1 6 1 2 2 2 25 2 4 3 16 4 13 1 2 2 6 1 15 1
    703 3 946 3 29 2 30 14 18 14 55 7 8 1 2 11 9 3 165 2 34 1 118 3 4 2 9 1 6 7 215 2 2 3 56 1 1 9
    1 1 2 8 6 13 48 84 48 1 1 5 1 1 5 1 40 9 12 2 32 4 2 2 1 3 56 1 1 2 3 1 1 3 58 8 2 5 149 3 1 13
    1 7 4 1 6 1 3 2 198 64 720 48 3055 3 141 1 96 32 554 4 107 2 30164 4 1 10 32 2 80 2 272 1 3 1 4
    1 25 2 5 4 148 10 18 18 13 1 38 8 25 11 46 3 48 1 2 4 2 2 39 1 67 6 2 2 2 11 3 1 8 1 47 1 51 1
    1 3 2 2 5 2 1 1 42 2 8 11 228 1 2 1 4 3 20270 1 769 17 365 3 604 131 96 1 149 10 1665 15 40 8
    165 6 569 12 57 5 317 2 77 6 70 11 49 4 123 1 54 15 41 1 2 2 10 3 49 4 2 2 7 14 48 3 36 5 1 9
    61 1 12 2 52 9 10 4 2 1 95 3 2 1 1 2 6 1 2 63 95 1 3 13 16 2 57 2 3 1 37 26 59 7 12 1 1 1 1 1
    14 31 56 8 2 3 1 1 23 1 84 6 1 1 4 2 1 2 238 6 4 2 1 2 27 36 51 8 2 1 1 2 106 1 1 1 2 6 1 1 101
    3 2 4 1 9 255 9 1 2 256 2 1 1 4 1 144 8 4 1 32 6 2 2 40 6 2 4 8 9 1 6 2 3 46 13 1 2 198 1 1 3 1
    1 201 14 84 23 1 7 1 2 1 75 49 21 1 9 64 3 2 1 1 1 347 2 11 2 52 8 2 1 1 1 23 86 5264 1 6 25
    11454 12 3 3 2496 5 59 7 1048 1 63 4 81 12 19629 2 4705 80 535 3 17 8 2 7 30 4 148 3 1979 55 4
    50 8 1 14 1 22 1125 256 48 95 113 48 7 375 18 44 4 508 4 254 2 243 1 2 1 7 2 5 9 466 48 68 7"

/-- Joined with the letter that follows. -/
def joinsNext : RunSet := .ofLengths
    "1568 1 5 1 1 1 1 5 4 13 1 7 1 2 35 2 9 15 18 38 1 2 9 1 1 1 1 2 40 3 2 1 18 3 5 4 1 9 1 1 1 1 1
    2 31 11 3 15 2 4 1 1 2 3 2 6 74 33 86 5 2 1 1 10 1 1 10 1 1 4 2 1 29 1 2 5 1 8 9 10 5 2 2 6 1
    15 3902 1 24 96 7 34 1 6 36752 51 21215 48 12 22 2 8 37 4 13 6 12 65 1 35 11 4 2 4 2 4 2 8 1 7
    1 1 2 4 3 70 1 24 3 24 4 24 4 15 20 64 2 54 42 1 2 8 140 4 2 4 2 20 8 60 2 6 3019 5 8 1 5 10 1
    3 10 4 145 1 1 1 3 3 1 2 1 1 2 1 28 2 337 34 1 1 415 2 1 10 96 3 1 17 12 3 28 4 2 12 46 1 1 2 4
    1 2 2 1 2 1 1 2 1 5 22 55584 68 1213 2 4 12 1 4 1 103 1 2 1 1 2 12 1 4 1 10 4 12 1 4 1 55"

/-- Joined with the letter that comes before. -/
def joinsPrevious : RunSet := .ofLengths
    "1568 1 1 30 1 10 35 2 1 3 5 91 1 1 24 2 10 3 2 1 16 1 1 30 29 51 74 33 85 25 7 1 1 4 1 28 3 1 2
    14 9 13 1 27 3902 1 24 96 7 34 1 6 36752 50 21214 98 33 10 1 125 9 44 1 72 1 24 3 71 20 64 2 54
    40 13 132 128 3007 6 1 1 1 2 3 9 1 10 2 1 6 5 144 25 16 6 338 35 414 3 1 10 96 21 12 4 27 18 46
    1 1 5 1 8 1 4 4 2 55605 68 1212 240"

/-- Do not count when letters are joined. -/
def transparent : RunSet := .ofLengths
    "168 1 6 1 4 1 3 1 119 1 423 6 34 69 1 42 20 2 253 7 263 45 1 1 1 2 1 2 1 9 64 11 48 21 16 1 101
    8 1 6 2 2 1 4 35 1 30 29 89 11 58 9 9 1 24 4 1 9 1 3 1 7 41 5 57 9 42 57 55 1 1 1 4 8 4 1 3 15
    2 2 29 1 58 1 4 6 6 1 14 4 2 4 24 5 48 2 1 2 4 2 3 27 2 8 10 2 3 1 11 2 57 1 4 8 4 3 18 4 20 8
    58 1 2 1 1 6 6 10 5 3 3 4 28 1 61 1 12 3 48 1 3 1 55 1 1 3 5 18 10 4 27 1 58 1 2 1 6 1 5 9 13 4
    26 2 57 2 4 5 7 1 20 4 27 1 72 5 3 6 89 1 2 11 8 8 98 1 2 9 11 8 72 2 27 1 1 1 1 1 9 1 9 1 4 1
    4 1 4 1 12 1 7 14 1 5 1 2 5 49 8 1 102 4 1 6 1 2 2 2 25 2 4 3 16 4 13 1 2 2 6 1 15 1 703 3 946
    3 29 2 30 14 18 14 55 7 8 1 2 11 9 3 165 2 34 1 118 3 4 2 9 1 6 7 215 2 2 3 56 1 1 9 1 1 2 8 6
    13 48 84 48 1 1 5 1 1 5 1 40 9 12 2 32 4 2 2 1 3 56 1 1 2 3 1 1 3 58 8 2 5 149 3 1 13 1 7 4 1 6
    1 3 2 198 64 445 1 1 3 11 3 13 3 13 2 14 3 23 1 38 1 145 48 2524 1 530 3 141 1 96 32 554 4 107
    4 30162 4 1 10 32 2 80 2 272 1 3 1 4 1 25 2 5 4 148 10 18 18 13 1 38 8 25 11 46 3 48 1 2 4 2 2
    39 1 67 6 2 2 2 11 3 1 8 1 47 1 51 1 1 3 2 2 5 2 1 1 42 2 8 11 228 1 2 1 4 3 20269 3 10 37 268
    9 44 1 72 1 24 3 71 2 226 17 24 4 35 3 1 12 286 3 66 1 537 131 96 1 149 10 1665 15 40 8 165 6
    569 12 57 5 317 2 77 6 70 11 49 4 123 1 54 15 41 1 2 2 10 3 49 4 2 2 7 14 48 3 36 5 1 9 61 1 12
    2 52 9 10 4 2 1 95 3 2 1 1 2 6 1 2 63 95 1 3 13 16 2 57 2 3 1 37 26 59 7 12 1 1 1 1 1 14 31 56
    8 2 3 1 1 23 1 84 6 1 1 4 2 1 2 238 6 4 2 1 2 27 36 51 8 2 1 1 2 106 1 1 1 2 6 1 1 101 1 1 1 2
    4 1 9 255 9 1 2 256 2 1 1 4 1 144 8 4 1 32 10 40 6 2 4 8 9 1 6 2 3 46 13 1 2 198 1 1 3 1 1 201
    14 1 1 82 23 1 7 1 2 1 75 49 21 1 9 64 3 2 1 1 1 347 2 11 2 52 8 2 1 1 1 23 86 5264 1 6 25
    11454 12 3 3 2496 5 59 7 1048 1 63 4 81 12 19629 2 4705 80 535 3 17 8 2 7 30 4 148 3 1979 55 4
    50 8 1 14 1 22 1125 256 48 95 113 48 7 375 18 44 4 508 4 254 2 243 1 2 1 7 2 5 9 466 48 68 12"

/-- Signs that silence a vowel and may bind consonants. -/
def virama : RunSet := .ofLengths
    "2381 1 127 1 127 4 124 3 125 8 120 3 125 8 120 8 102 2 16 1 124 5 107 5 123 1 201 1 180 2 1753
    11 21 1 157 1 653 1 227 1 101 2 70 10 4483 1 31366 1 37 4 148 1 142 12 97 1 309 11 236 3 24143
    1 1542 1 41 1 14 1 57 1 121 3 138 1 116 1 180 6 93 3 126 3 113 1 127 1 252 1 127 1 118 1 116 5
    265 1 259 2 161 1 83 1 18 9 73 1 421 1 260 2 81 1 425 2 16876 1"

/-- The groups of numbers between the commas. -/
def groups (s : String) : List (List Nat) :=
  (cut ',' s.toList).map fun g => RunSet.numbers (String.ofList g)

/-- Neighbouring code points with something in common. -/
structure Run (α : Type) where
  first : Nat
  count : Nat
  value : α
deriving Repr, DecidableEq

def Run.has {α : Type} (r : Run α) (n : Nat) : Bool := r.first ≤ n && n < r.first + r.count

/-- Runs written as the gap before each, its length and its value. -/
def runsFrom : Nat → List (List Nat) → List (Run (List Nat))
  | at_, (gap :: count :: value) :: r =>
      ⟨at_ + gap, count, value⟩ :: runsFrom (at_ + gap + count) r
  | _, _ => []

/-- What characters stand for where ASCII is part of it; the members of a run stand for
characters in a row. -/
def folds : List (Run (List Nat)) := runsFrom 0 <| groups
    "160 1 32, 7 1 32 776, 1 1 97, 4 1 32 772, 2 2 50, 0 1 32 769, 3 1 32 807, 0 1 49, 0 1 111, 1 1
    49 8260 52, 0 1 49 8260 50, 0 1 51 8260 52, 113 1 105 775, 1 1 105 106, 0 1 105 106, 11 1 108
    183, 0 1 108 183, 8 1 700 110, 53 1 115, 68 1 100 382, 0 1 100 382, 0 1 100 382, 0 1 108 106, 0
    1 108 106, 0 1 108 106, 0 1 110 106, 0 1 110 106, 0 1 110 106, 36 1 100 122, 0 1 100 122, 0 1
    100 122, 188 1 104, 1 1 106, 0 1 114, 3 1 119, 0 1 121, 31 1 32 774, 0 1 32 775, 0 1 32 778, 0
    1 32 808, 0 1 32 771, 0 1 32 779, 3 1 108, 0 1 115, 0 1 120, 150 1 32 953, 3 1 59, 5 1 32 769,
    0 1 32 776 769, 6566 1 97, 1 1 98, 1 2 100, 1 8 103, 1 1 111, 1 1 112, 0 1 114, 0 2 116, 0 1
    119, 0 1 97, 3 1 98, 0 2 100, 3 1 103, 1 1 107, 0 1 109, 1 1 111, 3 1 112, 0 2 116, 2 1 118, 6
    1 105, 0 1 114, 0 2 117, 54 1 99, 3 1 102, 26 1 122, 222 1 97 702, 290 1 32 787, 1 1 32 787, 0
    1 32 834, 0 1 32 776 834, 11 1 32 787 768, 0 1 32 787 769, 0 1 32 787 834, 13 1 32 788 768, 0 1
    32 788 769, 0 1 32 788 834, 13 1 32 776 768, 0 1 32 776 769, 0 1 96, 13 1 32 769, 0 1 32 788, 1
    1 32, 0 1 32, 0 1 32, 0 1 32, 0 1 32, 0 1 32, 0 1 32, 0 1 32, 0 1 32, 0 1 32, 0 1 32, 12 1 32
    819, 23 1 32, 12 1 33 33, 1 1 32 773, 8 1 63 63, 0 1 63 33, 0 1 33 63, 21 1 32, 16 1 48, 0 1
    105, 2 6 52, 0 1 43, 1 1 61, 0 2 40, 0 1 110, 0 10 48, 0 1 43, 1 1 61, 0 2 40, 1 1 97, 0 1 101,
    0 1 111, 0 1 120, 1 1 104, 0 4 107, 0 1 112, 0 2 115, 11 1 114 115, 87 1 97 47 99, 0 1 97 47
    115, 0 1 99, 0 1 176 99, 1 1 99 47 111, 0 1 99 47 117, 2 1 176 102, 0 2 103, 0 1 104, 0 1 104,
    0 1 104, 1 1 105, 0 1 105, 0 1 108, 0 1 108, 1 1 110, 0 1 110 111, 2 3 112, 0 1 114, 0 1 114, 2
    1 115 109, 0 1 116 101 108, 0 1 116 109, 1 1 122, 3 1 122, 1 1 107, 1 2 98, 1 1 101, 0 2 101, 1
    1 109, 0 1 111, 4 1 105, 1 1 102 97 120, 9 1 100, 0 2 100, 0 2 105, 6 1 49 8260 55, 0 1 49 8260
    57, 0 1 49 8260 49 48, 0 1 49 8260 51, 0 1 50 8260 51, 0 1 49 8260 53, 0 1 50 8260 53, 0 1 51
    8260 53, 0 1 52 8260 53, 0 1 49 8260 54, 0 1 53 8260 54, 0 1 49 8260 56, 0 1 51 8260 56, 0 1 53
    8260 56, 0 1 55 8260 56, 0 1 49 8260, 0 1 105, 0 1 105 105, 0 1 105 105 105, 0 1 105 118, 0 1
    118, 0 1 118 105, 0 1 118 105 105, 0 1 118 105 105 105, 0 1 105 120, 0 1 120, 0 1 120 105, 0 1
    120 105 105, 0 1 108, 0 2 99, 0 1 109, 0 1 105, 0 1 105 105, 0 1 105 105 105, 0 1 105 118, 0 1
    118, 0 1 118 105, 0 1 118 105 105, 0 1 118 105 105 105, 0 1 105 120, 0 1 120, 0 1 120 105, 0 1
    120 105 105, 0 1 108, 0 2 99, 0 1 109, 9 1 48 8260 51, 726 9 49, 0 1 49 48, 0 1 49 49, 0 1 49
    50, 0 1 49 51, 0 1 49 52, 0 1 49 53, 0 1 49 54, 0 1 49 55, 0 1 49 56, 0 1 49 57, 0 1 50 48, 0 1
    40 49 41, 0 1 40 50 41, 0 1 40 51 41, 0 1 40 52 41, 0 1 40 53 41, 0 1 40 54 41, 0 1 40 55 41, 0
    1 40 56 41, 0 1 40 57 41, 0 1 40 49 48 41, 0 1 40 49 49 41, 0 1 40 49 50 41, 0 1 40 49 51 41, 0
    1 40 49 52 41, 0 1 40 49 53 41, 0 1 40 49 54 41, 0 1 40 49 55 41, 0 1 40 49 56 41, 0 1 40 49 57
    41, 0 1 40 50 48 41, 20 1 40 97 41, 0 1 40 98 41, 0 1 40 99 41, 0 1 40 100 41, 0 1 40 101 41, 0
    1 40 102 41, 0 1 40 103 41, 0 1 40 104 41, 0 1 40 105 41, 0 1 40 106 41, 0 1 40 107 41, 0 1 40
    108 41, 0 1 40 109 41, 0 1 40 110 41, 0 1 40 111 41, 0 1 40 112 41, 0 1 40 113 41, 0 1 40 114
    41, 0 1 40 115 41, 0 1 40 116 41, 0 1 40 117 41, 0 1 40 118 41, 0 1 40 119 41, 0 1 40 120 41, 0
    1 40 121 41, 0 1 40 122 41, 0 26 97, 0 26 97, 0 1 48, 1417 1 58 58 61, 0 1 61 61, 0 1 61 61 61,
    517 1 106, 0 1 118, 898 1 32, 1 1 46, 152 1 32 12441, 0 1 32 12442, 355 1 40 4352 41, 0 1 40
    4354 41, 0 1 40 4355 41, 0 1 40 4357 41, 0 1 40 4358 41, 0 1 40 4359 41, 0 1 40 4361 41, 0 1 40
    4363 41, 0 1 40 4364 41, 0 1 40 4366 41, 0 1 40 4367 41, 0 1 40 4368 41, 0 1 40 4369 41, 0 1 40
    4370 41, 0 1 40 44032 41, 0 1 40 45208 41, 0 1 40 45796 41, 0 1 40 46972 41, 0 1 40 47560 41, 0
    1 40 48148 41, 0 1 40 49324 41, 0 1 40 50500 41, 0 1 40 51088 41, 0 1 40 52264 41, 0 1 40 52852
    41, 0 1 40 53440 41, 0 1 40 54028 41, 0 1 40 54616 41, 0 1 40 51452 41, 0 1 40 50724 51204 41,
    0 1 40 50724 54980 41, 1 1 40 19968 41, 0 1 40 20108 41, 0 1 40 19977 41, 0 1 40 22235 41, 0 1
    40 20116 41, 0 1 40 20845 41, 0 1 40 19971 41, 0 1 40 20843 41, 0 1 40 20061 41, 0 1 40 21313
    41, 0 1 40 26376 41, 0 1 40 28779 41, 0 1 40 27700 41, 0 1 40 26408 41, 0 1 40 37329 41, 0 1 40
    22303 41, 0 1 40 26085 41, 0 1 40 26666 41, 0 1 40 26377 41, 0 1 40 31038 41, 0 1 40 21517 41,
    0 1 40 29305 41, 0 1 40 36001 41, 0 1 40 31069 41, 0 1 40 21172 41, 0 1 40 20195 41, 0 1 40
    21628 41, 0 1 40 23398 41, 0 1 40 30435 41, 0 1 40 20225 41, 0 1 40 36039 41, 0 1 40 21332 41,
    0 1 40 31085 41, 0 1 40 20241 41, 0 1 40 33258 41, 0 1 40 33267 41, 12 1 112 116 101, 0 1 50
    49, 0 1 50 50, 0 1 50 51, 0 1 50 52, 0 1 50 53, 0 1 50 54, 0 1 50 55, 0 1 50 56, 0 1 50 57, 0 1
    51 48, 0 1 51 49, 0 1 51 50, 0 1 51 51, 0 1 51 52, 0 1 51 53, 81 1 51 54, 0 1 51 55, 0 1 51 56,
    0 1 51 57, 0 1 52 48, 0 1 52 49, 0 1 52 50, 0 1 52 51, 0 1 52 52, 0 1 52 53, 0 1 52 54, 0 1 52
    55, 0 1 52 56, 0 1 52 57, 0 1 53 48, 0 1 49 26376, 0 1 50 26376, 0 1 51 26376, 0 1 52 26376, 0
    1 53 26376, 0 1 54 26376, 0 1 55 26376, 0 1 56 26376, 0 1 57 26376, 0 1 49 48 26376, 0 1 49 49
    26376, 0 1 49 50 26376, 0 1 104 103, 0 1 101 114 103, 0 1 101 118, 0 1 108 116 100, 136 1 48
    28857, 0 1 49 28857, 0 1 50 28857, 0 1 51 28857, 0 1 52 28857, 0 1 53 28857, 0 1 54 28857, 0 1
    55 28857, 0 1 56 28857, 0 1 57 28857, 0 1 49 48 28857, 0 1 49 49 28857, 0 1 49 50 28857, 0 1 49
    51 28857, 0 1 49 52 28857, 0 1 49 53 28857, 0 1 49 54 28857, 0 1 49 55 28857, 0 1 49 56 28857,
    0 1 49 57 28857, 0 1 50 48 28857, 0 1 50 49 28857, 0 1 50 50 28857, 0 1 50 51 28857, 0 1 50 52
    28857, 0 1 104 112 97, 0 1 100 97, 0 1 97 117, 0 1 98 97 114, 0 1 111 118, 0 1 112 99, 0 1 100
    109, 0 1 100 109 50, 0 1 100 109 51, 0 1 105 117, 5 1 112 97, 0 1 110 97, 0 1 956 97, 0 1 109
    97, 0 1 107 97, 0 1 107 98, 0 1 109 98, 0 1 103 98, 0 1 99 97 108, 0 1 107 99 97 108, 0 1 112
    102, 0 1 110 102, 0 1 956 102, 0 1 956 103, 0 1 109 103, 0 1 107 103, 0 1 104 122, 0 1 107 104
    122, 0 1 109 104 122, 0 1 103 104 122, 0 1 116 104 122, 0 1 956 108, 0 1 109 108, 0 1 100 108,
    0 1 107 108, 0 1 102 109, 0 1 110 109, 0 1 956 109, 0 1 109 109, 0 1 99 109, 0 1 107 109, 0 1
    109 109 50, 0 1 99 109 50, 0 1 109 50, 0 1 107 109 50, 0 1 109 109 51, 0 1 99 109 51, 0 1 109
    51, 0 1 107 109 51, 0 1 109 8725 115, 0 1 109 8725 115 50, 0 1 112 97, 0 1 107 112 97, 0 1 109
    112 97, 0 1 103 112 97, 0 1 114 97 100, 0 1 114 97 100 8725 115, 0 1 114 97 100 8725 115 50, 0
    1 112 115, 0 1 110 115, 0 1 956 115, 0 1 109 115, 0 1 112 118, 0 1 110 118, 0 1 956 118, 0 1
    109 118, 0 1 107 118, 0 1 109 118, 0 1 112 119, 0 1 110 119, 0 1 956 119, 0 1 109 119, 0 1 107
    119, 0 1 109 119, 0 1 107 969, 0 1 109 969, 1 1 98 113, 0 1 99 99, 0 1 99 100, 0 1 99 8725 107
    103, 1 1 100 98, 0 1 103 121, 0 1 104 97, 0 1 104 112, 0 1 105 110, 0 1 107 107, 0 1 107 109, 0
    1 107 116, 0 1 108 109, 0 1 108 110, 0 1 108 111 103, 0 1 108 120, 0 1 109 98, 0 1 109 105 108,
    0 1 109 111 108, 0 1 112 104, 1 1 112 112 109, 0 1 112 114, 0 1 115 114, 0 1 115 118, 0 1 119
    98, 0 1 118 8725 109, 0 1 97 8725 109, 0 1 49 26085, 0 1 50 26085, 0 1 51 26085, 0 1 52 26085,
    0 1 53 26085, 0 1 54 26085, 0 1 55 26085, 0 1 56 26085, 0 1 57 26085, 0 1 49 48 26085, 0 1 49
    49 26085, 0 1 49 50 26085, 0 1 49 51 26085, 0 1 49 52 26085, 0 1 49 53 26085, 0 1 49 54 26085,
    0 1 49 55 26085, 0 1 49 56 26085, 0 1 49 57 26085, 0 1 50 48 26085, 0 1 50 49 26085, 0 1 50 50
    26085, 0 1 50 51 26085, 0 1 50 52 26085, 0 1 50 53 26085, 0 1 50 54 26085, 0 1 50 55 26085, 0 1
    50 56 26085, 0 1 50 57 26085, 0 1 51 48 26085, 0 1 51 49 26085, 0 1 103 97 108, 29681 1 115, 0
    1 99, 0 1 102, 0 1 113, 21259 1 102 102, 0 1 102 105, 0 1 102 108, 0 1 102 102 105, 0 1 102 102
    108, 0 1 115 116, 0 1 115 116, 34 1 43, 308 1 32 1612 1617, 0 1 32 1613 1617, 0 1 32 1614 1617,
    0 1 32 1615 1617, 0 1 32 1616 1617, 0 1 32 1617 1648, 406 1 1589 1604 1609 32 1575 1604 1604
    1607 32 1593 1604 1610 1607 32 1608 1587 1604 1605, 0 1 1580 1604 32 1580 1604 1575 1604 1607,
    20 1 44, 2 2 58, 0 1 33, 0 1 63, 28 1 95, 0 1 95, 0 2 40, 0 1 123, 0 1 125, 14 1 91, 0 1 93, 0
    1 32 773, 0 1 32 773, 0 1 32 773, 0 1 32 773, 0 1 95, 0 1 95, 0 1 95, 0 1 44, 3 1 59, 0 1 58, 0
    1 63, 0 1 33, 1 2 40, 0 1 123, 0 1 125, 2 1 35, 0 1 38, 0 2 42, 0 1 45, 0 1 60, 0 1 62, 0 1 61,
    1 1 92, 0 2 36, 0 1 64, 4 1 32 1611, 1 1 32 1612, 1 1 32 1613, 1 1 32 1614, 1 1 32 1615, 1 1 32
    1616, 1 1 32 1617, 1 1 32 1618, 130 32 33, 0 26 97, 0 36 91, 2 1 46, 129 1 32 772, 1985 1 113,
    50480 26 97, 0 10 48, 1798 26 97, 0 26 97, 0 26 97, 0 7 97, 1 18 105, 0 26 97, 0 26 97, 0 1 97,
    1 2 99, 2 1 103, 2 2 106, 2 4 110, 1 8 115, 0 4 97, 1 1 102, 1 7 104, 1 11 112, 0 26 97, 0 26
    97, 0 2 97, 1 4 100, 2 8 106, 1 7 115, 1 26 97, 0 2 97, 1 4 100, 1 5 105, 1 1 111, 3 7 115, 1
    26 97, 0 26 97, 0 26 97, 0 26 97, 0 26 97, 0 26 97, 0 26 97, 0 26 97, 0 26 97, 0 26 97, 0 26
    97, 0 26 97, 0 26 97, 298 10 48, 0 10 48, 0 10 48, 0 10 48, 0 10 48, 6401 1 48 44, 0 1 49 44, 0
    1 50 44, 0 1 51 44, 0 1 52 44, 0 1 53 44, 0 1 54 44, 0 1 55 44, 0 1 56 44, 0 1 57 44, 5 1 40 97
    41, 0 1 40 98 41, 0 1 40 99 41, 0 1 40 100 41, 0 1 40 101 41, 0 1 40 102 41, 0 1 40 103 41, 0 1
    40 104 41, 0 1 40 105 41, 0 1 40 106 41, 0 1 40 107 41, 0 1 40 108 41, 0 1 40 109 41, 0 1 40
    110 41, 0 1 40 111 41, 0 1 40 112 41, 0 1 40 113 41, 0 1 40 114 41, 0 1 40 115 41, 0 1 40 116
    41, 0 1 40 117 41, 0 1 40 118 41, 0 1 40 119 41, 0 1 40 120 41, 0 1 40 121 41, 0 1 40 122 41, 0
    1 12308 115 12309, 0 1 99, 0 1 114, 0 1 99 100, 0 1 119 122, 1 26 97, 0 1 104 118, 0 1 109 118,
    0 1 115 100, 0 1 115 115, 0 1 112 112 118, 0 1 119 99, 26 1 109 99, 0 1 109 100, 0 1 109 114,
    35 1 100 106, 2655 10 48"

/-- The classes by which combining marks are put in order. -/
def combiningClasses : List (Run (List Nat)) := runsFrom 0 <| groups
    "768 21 230, 0 1 232, 0 4 220, 0 1 232, 0 1 216, 0 5 220, 0 2 202, 0 4 220, 0 2 202, 0 11 220, 0
    5 1, 0 4 220, 0 3 230, 2 1 230, 3 1 230, 0 3 220, 0 3 230, 0 2 220, 1 3 230, 0 4 220, 0 1 230,
    0 1 232, 0 2 220, 0 1 230, 0 1 233, 0 2 234, 0 1 233, 0 2 234, 0 1 233, 0 13 230, 275 5 230,
    265 1 220, 0 4 230, 0 1 220, 0 3 230, 0 1 222, 0 1 220, 0 6 230, 0 6 220, 0 2 230, 0 1 220, 0 2
    230, 0 1 222, 0 1 228, 0 1 230, 0 1 10, 0 1 11, 0 1 12, 0 1 13, 0 1 14, 0 1 15, 0 1 16, 0 1 17,
    0 1 18, 0 2 19, 0 1 20, 0 1 21, 0 1 22, 1 1 23, 1 1 24, 0 1 25, 1 1 230, 0 1 220, 1 1 18, 72 8
    230, 0 1 30, 0 1 31, 0 1 32, 48 1 27, 0 1 28, 0 1 29, 0 1 30, 0 1 31, 0 1 32, 0 1 33, 0 1 34, 0
    2 230, 0 2 220, 0 5 230, 0 1 220, 0 2 230, 0 1 220, 16 1 35, 101 7 230, 2 4 230, 0 1 220, 0 1
    230, 2 2 230, 1 1 220, 0 2 230, 0 1 220, 35 1 36, 30 1 230, 0 1 220, 0 2 230, 0 1 220, 0 2 230,
    0 3 220, 0 1 230, 0 2 220, 0 1 230, 0 1 220, 0 3 230, 0 1 220, 0 1 230, 0 1 220, 0 1 230, 0 1
    220, 0 1 230, 0 1 220, 0 2 230, 160 7 230, 0 1 220, 0 1 230, 9 1 220, 24 4 230, 1 9 230, 1 3
    230, 1 5 230, 43 3 220, 59 2 230, 0 3 220, 0 4 230, 42 5 230, 0 5 220, 0 14 230, 1 1 220, 0 2
    230, 0 1 220, 0 2 230, 0 1 220, 0 3 230, 0 3 220, 0 1 27, 0 1 28, 0 1 29, 0 3 230, 0 1 220, 0 2
    230, 0 2 220, 0 5 230, 60 1 7, 16 1 9, 3 1 230, 0 1 220, 0 2 230, 103 1 7, 16 1 9, 48 1 230, 61
    1 7, 16 1 9, 110 1 7, 16 1 9, 110 1 7, 16 1 9, 127 1 9, 110 1 7, 16 1 9, 7 1 84, 0 1 91, 101 1
    7, 16 1 9, 109 2 9, 16 1 9, 124 1 9, 109 2 103, 0 1 9, 13 4 107, 108 2 118, 0 1 9, 13 4 122, 76
    2 220, 27 1 220, 1 1 220, 1 1 216, 55 1 129, 0 1 130, 1 1 132, 5 4 130, 2 1 130, 1 2 230, 0 1
    9, 1 2 230, 62 1 220, 112 1 7, 1 2 9, 82 1 220, 719 3 230, 948 2 9, 30 1 9, 157 1 9, 10 1 230,
    203 1 228, 143 1 222, 0 1 230, 0 1 220, 219 1 230, 0 1 220, 71 1 9, 20 8 230, 2 1 220, 48 5
    230, 0 6 220, 0 2 230, 0 1 220, 1 2 220, 0 2 230, 0 2 220, 0 5 230, 0 1 220, 0 18 230, 0 1 220,
    2 6 230, 0 1 220, 0 4 230, 0 1 234, 72 1 7, 15 1 9, 38 1 230, 0 1 220, 0 7 230, 54 2 9, 58 1 7,
    11 2 9, 67 1 7, 152 3 230, 1 1 1, 0 5 220, 0 2 230, 0 4 220, 0 1 230, 1 7 1, 4 1 220, 6 1 230,
    3 2 230, 198 2 230, 0 1 220, 0 7 230, 0 1 220, 0 2 230, 0 1 234, 0 1 214, 0 1 220, 0 1 202, 0
    37 230, 0 1 232, 0 2 228, 0 1 220, 0 1 218, 0 1 230, 0 1 233, 0 1 220, 0 1 230, 0 1 220, 720 2
    230, 0 2 1, 0 4 230, 0 3 1, 0 2 230, 4 1 230, 3 2 1, 0 1 230, 0 1 220, 0 1 230, 0 2 1, 0 4 220,
    0 1 230, 3070 3 230, 141 1 9, 96 32 230, 554 1 218, 0 1 228, 0 1 232, 0 1 222, 0 2 224, 105 2
    8, 30164 1 230, 4 10 230, 32 2 230, 80 2 230, 276 1 9, 37 1 9, 151 1 9, 27 18 230, 57 3 220, 37
    1 9, 95 1 7, 12 1 9, 239 1 230, 1 2 230, 0 1 220, 2 2 230, 5 2 230, 1 1 230, 52 1 9, 246 1 9,
    20272 1 26, 769 7 230, 0 7 220, 0 2 230, 973 1 220, 226 1 220, 149 5 230, 1682 1 220, 1 1 230,
    40 1 230, 0 1 1, 0 1 220, 4 1 9, 165 1 230, 0 1 220, 573 4 230, 65 5 230, 317 2 230, 77 2 220,
    1 3 220, 70 2 220, 0 3 230, 0 1 220, 0 1 230, 0 4 220, 49 1 230, 0 1 220, 0 1 230, 0 1 220, 192
    1 9, 41 1 9, 14 1 9, 57 1 9, 0 1 7, 69 3 230, 48 2 9, 62 1 7, 76 1 9, 9 1 7, 106 1 9, 0 1 7,
    178 1 7, 0 1 9, 80 2 7, 16 1 9, 24 7 230, 3 5 230, 89 3 9, 113 1 9, 3 1 7, 23 1 230, 99 1 9, 0
    1 7, 251 1 9, 0 1 7, 126 1 9, 118 1 9, 0 1 7, 115 1 9, 269 1 9, 0 1 7, 258 2 9, 4 1 7, 156 1 9,
    83 1 9, 18 1 9, 81 1 9, 421 1 9, 258 1 7, 1 2 9, 81 1 9, 425 2 9, 16876 1 9, 2496 5 1, 59 7
    230, 1209 2 6, 19628 1 1, 5318 2 216, 0 3 1, 3 1 226, 0 5 216, 8 8 220, 2 5 230, 0 2 220, 30 4
    230, 148 3 230, 3515 7 230, 1 17 230, 2 7 230, 1 2 230, 1 5 230, 100 1 230, 160 7 230, 375 1
    230, 61 4 230, 508 2 232, 0 1 220, 0 1 230, 254 1 230, 0 1 220, 243 1 230, 2 1 230, 7 2 230, 5
    1 230, 474 7 220, 109 6 230, 0 1 7"

/-- First in each group a character, then the characters with which it becomes one when it follows
them, each as the distance from the one before. -/
def compositions : List (List Nat) := groups
    "768 65 4 4 5 1 6 2 2 8 4 4 5 1 6 2 2 47 26 8 10 8 6 8 10 8 6 1 15 1 57 1 83 1 14 1 481 4 2 2 6
    6 4 8 4 2 2 6 6 4 1 1 74 3 29 3 6856 1 7 1 7 1 7 1 7 1 7 1 7 1 7 1 7 1 7 1 7 1 8 7 1 7 1 86 63,
    769 65 2 2 2 2 2 1 1 1 1 1 2 1 2 2 2 1 7 2 2 2 2 2 1 1 1 1 1 2 1 2 2 2 1 46 26 3 1 1 3 5 5 1 3
    4 6 3 1 1 3 5 5 1 3 4 6 1 15 1 57 1 27 1 55 1 14 1 481 4 2 2 6 6 4 8 4 2 2 6 6 4 1 1 7 65 7 25
    7 6854 1 7 1 7 1 7 1 7 1 7 1 7 1 7 1 7 1 7 1 7 1 8 7 1 7 1 86 63, 770 65 2 2 2 1 1 1 5 4 2 2 2
    1 7 2 2 2 1 1 1 5 4 2 2 2 1 7718 1 23 1 19 1, 771 65 4 4 5 1 6 1 3 8 4 4 5 1 6 1 3 73 8 10 14 8
    10 14 1 157 1 14 1, 772 65 4 2 2 6 6 4 8 4 2 2 6 6 4 75 2 15 1 6 8 2 15 1 6 238 1 59 1 7 1 354
    8 12 12 8 12 83 11 21 11 6643 1 35 1, 774 65 4 2 2 6 6 12 4 2 2 6 6 435 1 360 8 12 12 8 12 75 5
    1 2 11 13 5 1 2 11 6749 1, 775 65 1 1 1 1 1 1 1 1 4 1 1 1 2 1 1 3 1 1 1 7 1 1 1 1 1 1 1 5 1 1 1
    2 1 1 3 1 1 1 224 1 5 1 30 7395 1 59247 8, 776 65 4 3 1 6 6 2 1 1 8 4 3 1 6 5 1 2 1 1 92 32 117
    1 558 12 20 12 13 52 10 5 1 1 1 6 5 4 4 2 3 5 1 1 1 6 5 4 4 2 9 130 1 15 1, 777 65 4 4 6 6 4 8
    4 4 6 6 4 73 8 10 14 8 10 14 1 157 1 14 1, 778 65 20 12 20 2 2, 779 79 6 26 6 942 32, 780 65 2
    1 1 2 1 1 2 1 2 1 3 1 1 1 5 7 2 1 1 2 1 1 1 1 1 2 1 3 1 1 1 5 98 32 187 219, 783 65 4 4 6 3 3
    12 4 4 6 3 3 1023 1, 785 65 4 4 6 3 3 12 4 4 6 3 3, 787 913 4 2 2 6 10 8 4 2 2 6 2 4 4, 788 913
    4 2 2 6 2 4 4 8 4 2 2 6 2 4 4, 795 79 6 26 6, 803 65 1 2 1 3 1 2 1 1 1 1 3 1 1 1 1 1 2 1 7 1 2
    1 3 1 2 1 1 1 1 3 1 1 1 1 1 2 1 294 1 14 1, 804 85 32, 805 65 32, 806 83 1 31 1, 807 67 1 1 2 1
    3 1 2 4 1 1 15 1 1 2 1 3 1 2 4 1 1, 808 65 4 4 6 6 12 4 4 6 6, 813 68 1 7 2 6 1 15 1 7 2 6 1,
    814 72 32, 816 69 4 12 16 4 12, 817 66 2 7 1 2 4 2 6 8 2 4 3 1 2 4 2 6, 824 60 1 1 8530 2 2 60
    2 2 47 5 3 24 2 23 7 2 3 5 20 3 1 13 1 3 1 3 1 1 1 5 1 3 1 10 1 16 6 1 2 7 1 1 1, 834 168 777 6
    2 12 4 1 1 6965 1 7 1 23 1 7 1 7 1 7 1 23 1 8 7 1 7 1 86 63, 837 913 6 18 3 2 3 6 18 5 6962 1 1
    1 1 1 1 1 1 1 1 1 1 1 1 1 17 1 1 1 1 1 1 1 1 1 1 1 1 1 1 1 49 1 1 1 1 1 1 1 1 1 1 1 1 1 1 1 1 4
    8 58 16 48, 1619 1575, 1620 1575 33 2 119 17 3, 1621 1575, 2364 2344 8 3, 2494 2503, 2519 2503,
    2878 2887, 2902 2887, 2903 2887, 3006 3014 1, 3031 2962 52, 3158 3142, 3266 3270, 3285 3263 7
    4, 3286 3270, 3390 3398 1, 3415 3398, 3530 3545 3, 3535 3545, 3551 3545, 4142 4133, 6965 6917 2
    2 2 2 4 41 2 2 1 3, 12441 12358 5 2 2 2 2 2 2 2 2 2 2 2 3 2 2 7 3 3 3 3 34 9 5 2 2 2 2 2 2 2 2
    2 2 2 3 2 2 7 3 3 3 3 20 1 1 1 11, 12442 12399 3 3 3 3 84 3 3 3 3, 69818 69785 2 10, 69927
    69937 1, 70462 70471, 70487 70471, 70584 70594, 70587 70532, 70594 70539 55, 70601 70530 14 50,
    70832 70841, 70842 70841, 70845 70841, 71087 71096 1, 71984 71989, 90398 90398, 90399 90398 3 1
    7, 90400 90398 3, 90409 90398, 93543 93539 4 2"

end Crowdlending.Web.Name.Property
