import Multiscan.Unicode.Table
/-!
# Unicode — binary properties

The code points that have each of the binary properties, by the property's
long name.
-/

namespace Multiscan.Unicode

/-- The steps of a binary property, when it is one of those listed. -/
def binarySteps : String → Option String
  | "ASCII_Hex_Digit" => some
    "30+9 8+5 1B+5"
  | "Alphabetic" => some
    "41+19 7+19 30 B 5 6+16 2+1E 2+1C9 5+B F+4 8 2 57 1E+11 2+1 3+3 2 7 2+2 2 2+13 2+52
     2+8A 9+A5 2+25 3 7+28 28+D 2 2+1 2+1 2 9+1A 5+3 1E+A 6+37 2+6 F+65 2+7 5+7 5+2 B+2 3
     11+2F E+64 19+20 A+1 5 6+17 3+12 14+18 8+A 6+17 2+5 9 9+29 B+B 4+6 7+4B 2+F 2+2 5+E
     E+12 2+7 3+1 3+15 2+6 2 4+3 4+7 3+1 3+1 2 9 5+1 2+4 D+1 B 5+2 2+5 5+1 3+15 2+6 2+1
     2+1 2+1 5+4 5+1 3+1 5 8+3 2 12+5 C+2 2+8 2+2 2+15 2+6 2+1 2+4 4+8 2+2 2+1 4 10+3
     16+3 5+2 2+7 3+1 3+15 2+6 2+1 2+4 4+7 3+1 3+1 A+1 5+1 2+4 E 11+1 2+5 4+2 2+3 4+1 2
     2+1 4+1 4+2 4+B 5+4 4+2 2+2 4 7 29+C 2+2 2+16 2+F 4+7 2+2 2+2 9+1 2+2 3 3+3 1D+3 2+7
     2+2 2+16 2+9 2+4 4+7 2+2 2+2 9+1 7+1 2+3 E+2 D+C 2+2 2+28 3+7 2+2 2+2 2 6+3 8+4 17+5
     2+2 2+11 4+17 2+8 2 3+6 9+5 2 2+7 13+1 E+39 6+6 7 34+1 2 2+4 2+17 2 2+12 2+2 3+4 2 7
     F+3 21 40+7 2+23 5+12 5+F 2+23 44+36 2 3+4 11+3F B+3 3+25 2 6 3+2A 2+14C 2+3 3+6 2
     2+3 3+28 2+3 3+20 2+3 3+6 2 2+3 3+E 2+38 2+3 3+42 26+F 11+55 3+5 4+26B 3+10 2+19
     6+4A 4+A 8+13 C+14 D+13 D+C 2+2 2+1 D+33 3+12 F 5 44+58 8+2A 6+45 B+1E 2+B 5+8 18+1D
     3+4 C+2B 5+19 37+1B 5+3E 3+13 33 18+1 C+2 32+33 2+E 2+7 34+29 3+3 B+2B 2+A F+36 17+2
     B+23 3+A 6+2A 3+2 2A+3 2+5 2+1 4 6+BF 14+21 C+115 3+5 3+25 3+5 3+7 2 2 2 2+1E 3+34
     2+6 2 4+2 2+6 4+3 3+5 5+C 6+2 2+6 75 E 11+C 66 5 3+9 2 4+4 7 2 2 2+3 2+A 3+3 6+4 5
     12+28 32E+33 717+E4 7+3 4+1 D+25 2 6 3+37 8 11+16 A+6 2+6 2+6 2+6 2+6 2+6 2+6 2+6
     2+1F 30 1D6+2 1A+8 8+4 3+4 5+55 7+2 2+59 2+3 6+2A 2+5D 12+1F 31+F 201+19BF 41+568C
     44+2D 3+10C 4+F B+1 15+2E 6+7 4+70 28+8 3+66 3+42 3+1 2 2+7 16+13 2+20 19+33 D+43 2
     2D+5 4 2+2 B+20 6+22 E+1C 4+32 2+B 10 11+F B+4 2+36 A+D 13+16 4+44 2 2 19+2 3+F 3+3
     C+5 3+5 3+5 A+6 2+6 2+2A 2+D 7+7A 16+2BA3 D+16 5+30 2105+16D 3+69 27+6 D+4 6+B 2+C
     2+4 2 2+1 2+1 2+6B 22+16A 13+3F 3+35 29+B 75+4 2+86 25+19 7+19 C+58 4+5 3+5 3+5 3+2
     24+B 2+19 2+12 2+1 2+E 3+D 23+7A 46+34 10C+1C 4+30 30+1F E+1D 6+2A 6+1D 3+23 5+7 2+4
     2B+9D 13+23 5+23 5+27 9+33 D+A 2+E 2+6 2+1 2+A 2+E 2+6 2+1 4+33 D+136 A+15 B+7 19+5
     2+29 2+8 46+5 3 2+2B 2+1 4 3+16 B+16 A+1E 42+12 2+1 B+15 B+19 47+37 7+1 41+3 2+1 6+7
     2+2 2+1C 2B+1C 4+1C 24+7 2+1B 1C+35 B+15 B+12 E+11 6F+48 38+32 E+32 E+27 23+1B 4
     6+16 FB+29 2+1 4+1 11+2 38 4+1C B 9+15 2B+11 2F+14 1C+16 A+45 2C+4 B+38 A E+18 18+32
     12+3 9+22 4 A+3F 2+3 A+1 B 2 24+11 2+21 3 7+3 3F+6 2 2+3 2+E 2+9 8+38 18+3 2+7 3+1
     3+15 2+6 2+1 2+4 4+7 3+1 3+1 4 7 6+6 1D+9 2 3 2+25 2+9 2 3 2+3 2+1 4 2 2D+41 2+2 2+3
     15+2 1F+41 3+1 2 B9+35 3+6 1A+5 23+3E 2 4 3C+35 3 48+1A 3+D 16+6 BA+38 68+3F 20+7 3
     3+7 2+1 2+1D 2+1 3+1 3+3 5E+7 3+2D 3+5 2 2+1 1C+32 3+9 12+47 6 13+48 C8+20 20+8 2+2C
     2+6 2 32+1D 3+15 2+D 4A+6 2+1 2+2B 4 2+1 2+2 2 3+1 19+5 2+1 2+24 2+1 2+3 2 148+16
     A+10 2+28 4+2 70 50+399 67+6E 12+C3 A4D+60 10+42F 12+5 1A+F9A 6+246 1ABA+2E 6D2+238
     8+1E 12+4E 12+1D 13+2F 11+3 20+14 6+12 1B1+2C D4+3F 81+4A 5+38 8+10 41+1 2 D+1
     F+17F7 9+4D5 2A+9 22E8+3 2+6 2+1 2+122 10 1E+2 3 F+3 9+18B 905+6A 6+C 4+8 8+9 5
     1762+54 2+46 2+1 3 3+1 3+3 2+B 2 2+6 2+40 2+3 3+7 2+6 2+1B 2+3 2+4 2 4+6 2+153 3+18
     2+18 2+1E 2+18 2+1E 2+18 2+1E 2+18 2+1E 2+18 2+7 735+1E 7+5 D6+6 2+10 3+6 2+1 2+4
     6+3D 22 71+2C B+6 11 142+1D 13+2B 1E5+1B E5+1D 3 1F0+6 2+3 2+1 2+E 2+C4 3C+43 4 4
     4B5+3 2+1A 2+1 2 3 2+9 2+3 2 2 7 5 2 2 2+2 2+1 2 3 2 2 2 2 2+1 2 3+3 2+6 2+3 2+3 2
     2+9 2+10 6+2 2+4 2+10 275+19 7+19 7+19 E77+A6DF 21+1039 7+DD 3+1681 F+1D30 10+26D
     9A3+21D 5E3+134A 6+105F"
  | "Bidi_Control" => some
    "61C 19F2+1 1B+4 38+3"
  | "Bidi_Mirrored" => some
    "28+1 13 2 1D 2 1E 2 2E 10 E7F+3 75E+1 99D+1 B+1 37+1 F+1 B2 C1+3 4+5 4 4+1 4+3 2+3 2
     2 5+8 6 2+11 6+3 A+1 2 2+7 2+1F 3+3 6 A+1 3+12 6+1 A+4 3+1 5+17 3+F 9+3 15+1 8+1
     43E+D 4B 3+3 2+1 2+2 6+3 6+2 4+D 194+15 3+5 2+D 9 8+5 4 5+4 2+1 3+4 5 2+2 3+1 B+5
     3+1 D+12 2+3 3 2 3 2+3 6+1 7+2 19+1 C+1 5+3 2+1 3+1 5+2A 3+7 2+27 6 2 4+4 6+2 5 4+4
     2 101 204+3 4+1 2+1 F+1 3+9 2C+7 1AC+9 3+7 CE3E+5 6+1 A3+1 13 2 1D 2 1E 2 2+1 2+1
     D778 3A 3A 3A 3A"
  | "Case_Ignorable" => some
    "27 7 C 24 2 48 5 2 5 3+1 1F8+BF 5+1 5 A+1 2 FC+6 D0 6 32+2C 2 2+1 2+1 2 2D C+5 B+A 2
     24 B+14 11 66+7 2+9 2+3 22 2 1F+1A 5C+A 3B+A 5 3 19+17 2C+2 2D 8+1 6+8 2A+39 38 2
     5+7 5 4+6 B+1 E 10 3B 5+3 9 15+1 1B 3+1 3A 5+1 5+1 3+2 4 1F+1 4 C+1 3A 5+4 2+1 5
     15+1 17+5 2 3B 3 2+3 9 8+1 C+1 1F 3E D 33 4 38 2+2 6+2 2+3 8+1 C+1 1E 3B 3 7 6+1
     15+1 1D+1 3A+1 5+3 9 15+1 1E 49 8+2 2 5B 3+6 C+8 63 3+8 A 2+6 4A+1 1C 2 2 38+D 2+4
     2+1 6+A 2+23 A 67+3 2+5 2+1 3+1 1A+1 5+2 11+3 E 3+1 7 10 5F 261+2 3B3+2 1E+1 1F+1
     1F+1 41+1 2+6 9 3+A 4 6 2E+4 34 42+1 23 77+2 5+1 A 7+2 DC+1 3 3B 2+6 2 2 3+7 7+9 3
     28 9+1E 32+3 31 2+4 2 6 29+8 D+1 21+3 3+1 2+2 39 2+1 4 2+2 3B+7 3+1 41+5 53+2 2+C
     2+6 5 7 4+1 33+3E E 23+64 1BE 2+2 C+2 E+2 E+2 E+1 D+4 9+1 B 3 3+4 32+4 2+9 2 E 11+C
     34+20 B8C+1 72+2 7E 10 61+1F 30 1D6 25+3 4+4 6 5E+5 5E+2 6F17 4E3+5 10F 63+3 2+9 2
     1D+3 51+1 F+21 4F 18+2 68+2 4+1 9 4 5 1A+1 6 98+1 1B+11 E 27+7 1A+A 2F+2 31 3+3 3+1
     12 16+1 43+5 3+1 3+1 D 9 24 C 34 2+2 3+1 6+1 2 1C F+1 6+1 2 65+4 A+2 7A 3 5 4F31
     94+10 23E+F 4 D+F 23 3 AA 8 7 C 24 2 30 2E+1 44 16+2 202 E3 96+4 406+5 2+29 2+8
     247+2 2+1 6+3 29+2 5 A6+1 23E+3 27 1B+4 2 13C+1 50+3 47+A 32+3 7C 37+E 2A 3+1 B+2
     32+3 3+1 3 5 B 33+2 25+4 2+7 3F D+1 35+8 B+3 3 60+2 3 2+1 7 3 9E 4+7 16+1 3A+1 4
     26+6 4+4 47+5 E 2 2 F+1 56+7 3+2 2 18 55+5 2 5+1 2+1 EF+3 7+1 2+1 1C+1 56+7 3 2+1 6B
     2 3+5 2 66 2 3+3 2+4 104+8 2+1 101+1 2 5 91+3 3+1 5 21+9 29+5 3+3 9 A+5 3+2 2F+C 2+1
     197+6 2+5 2 53+15 3+6 2+1 2+1 7B+5 4 2+1 2+6 2 49+1 4 2 15C+1 C+1 35+4 6 2 18
     14D6+10 7+E 2CC9+B 4+2 9C1+4 3C+6 A+3 1FD+2 29+1 1E3 40+10 41+1 2+1 400C+3 2+6 2+1
     C9F+1 2+3 125D+2D 3+16 221+2 A+F 3+6 1F+3 95+2 7BC+36 5+31 9 F 17+4 2+E 551+6 2+10
     3+6 2+1 2+4 6+3D 22 A1+D 171 3E+3 1FC+4 FF+1 2E1+6 6E+7 AB0+4 C0C02 1F+5F 81+EF"
  | "Cased" => some
    "41+19 7+19 30 B 5 6+16 2+1E 2+C2 2+3 5+CF 2+23 8+1 1F+4 61 2B+3 3+1 3+3 2 7 2+2 2
     2+13 2+52 2+8A 9+A5 2+25 A+28 B18+25 2 6 3+2A 2+3 2A1+55 3+5 883+A 6+2A 3+2 41+BF
     41+115 3+5 3+25 3+5 3+7 2 2 2 2+1E 3+34 2+6 2 4+2 2+6 4+3 3+5 5+C 6+2 2+6 75 E 11+C
     66 5 3+9 2 4+4 7 2 2 2+3 2+5 5 3+3 6+4 5 12+1F 4+1 332+33 717+E4 7+3 4+1 D+25 2 6
     7913+2D 13+1D 85+65 4+3 2+3D 3+1 2 2+7 16+4 2+2 336+2A 2+D 7+4F 4F41+6 D+4 40A+19
     7+19 4A6+4F 61+23 5+23 75+A 2+E 2+6 2+1 2+A 2+E 2+6 2+1 1C4 3+2 2+29 2+8 4C6+32 E+32
     5E+15 B+15 B1B+3F 5561+3F 6581+54 2+46 2+1 3 3+1 3+3 2+B 2 2+6 2+40 2+3 3+7 2+6 2+1B
     2+3 2+4 2 4+6 2+153 3+18 2+18 2+1E 2+18 2+1E 2+18 2+1E 2+18 2+1E 2+18 2+7 735+9 2+13
     7+5 106+3D 893+43 7ED+19 7+19 7+19"
  | "Changes_When_Casefolded" => some
    "41+19 5B B+16 2+7 21 2 2 2 2 2 2 2 2 2 2 2 2 2 2 2 2 2 2 2 2 2 2 2 2 2 2 2 3 2 2 2 2
     2 2 2 2+1 2 2 2 2 2 2 2 2 2 2 2 2 2 2 2 2 2 2 2 2 2 2 2+1 2 2 2 2+1 2 2+1 2+2 3+3
     2+1 2+2 4+1 2+1 2 2 2+1 2 3 2+1 2+2 2 2+1 4 8+1 2+1 2+1 2 2 2 2 2 2 2 2 3 2 2 2 2 2
     2 2 2 3+1 2 2+2 2 2 2 2 2 2 2 2 2 2 2 2 2 2 2 2 2 2 2 2 2 2 2 2 2 2 2 2 2 8+1 2+1 3
     2+3 2 2 2 2 F7 2B 2 4 9 7 2+2 2 2+1 2+10 2+8 17 D+2 4+1 2 2 2 2 2 2 2 2 2 2 2 2 2+1
     3+1 2 2+1 3+32 31 2 2 2 2 2 2 2 2 2 2 2 2 2 2 2 2 A 2 2 2 2 2 2 2 2 2 2 2 2 2 2 2 2
     2 2 2 2 2 2 2 2 2 2 2+1 2 2 2 2 2 2 3 2 2 2 2 2 2 2 2 2 2 2 2 2 2 2 2 2 2 2 2 2 2 2
     2 2 2 2 2 2 2 2 2 2 2 2 2 2 2 2 2 2 2 2 2 2 2 2 3+25 31 B19+25 2 6 32B+5 883+9 7+2A
     3+2 141 2 2 2 2 2 2 2 2 2 2 2 2 2 2 2 2 2 2 2 2 2 2 2 2 2 2 2 2 2 2 2 2 2 2 2 2 2 2
     2 2 2 2 2 2 2 2 2 2 2 2 2 2 2 2 2 2 2 2 2 2 2 2 2 2 2 2 2 2 2 2 2 2 2 2 6+1 3 2 2 2
     2 2 2 2 2 2 2 2 2 2 2 2 2 2 2 2 2 2 2 2 2 2 2 2 2 2 2 2 2 2 2 2 2 2 2 2 2 2 2 2 2 2
     2 2 2 A+7 9+5 B+7 9+7 9+5 C 2 2 2 9+7 11+2F 3+2 3+5 6+2 3+5 C+3 D+4 6+2 3+5 12A 4+1
     7 2E+F 14 333+19 731+2F 31 2+2 3 2 2 2+3 2 3 9+2 2 2 2 2 2 2 2 2 2 2 2 2 2 2 2 2 2 2
     2 2 2 2 2 2 2 2 2 2 2 2 2 2 2 2 2 2 2 2 2 2 2 2 2 2 2 2 2 2 2 9 2 5 794E 2 2 2 2 2 2
     2 2 2 2 2 2 2 2 2 2 2 2 2 2 2 2 14 2 2 2 2 2 2 2 2 2 2 2 2 2 88 2 2 2 2 2 2 4 2 2 2
     2 2 2 2 2 2 2 2 2 2 2 2 2 2 2 2 2 2 2 2 2 2 2 2 2 2 2 B 2 2+1 2 2 2 2 5 2 3 2 4 2 2
     2 2 2 2 2 2 2 2+4 2+4 2 2 2 2 2 2 2 2+3 2 2+1 4 6 2 2 2 19 37B+4F 4F41+6 D+4 40A+19
     4C6+27 89+23 9D+A 2+E 2+6 2+1 6EB+32 9E+15 B3B+1F 5581+1F 7AA1+21"
  | "Changes_When_Casemapped" => some
    "41+19 7+19 3B B+16 2+1E 2+3F 2+53 2+1B 3+D 3+1 2 5+5C 2+11 7+1A 2+1 2 2+1 4+1 2+3
     2+4 3 2+1 3 8 3 2+1 4+5 6 B+1 A7 2B+3 3+1 4+2 2 7 2+2 2 2+13 2+2E 4+20 2+4 2+84 9+A5
     2+25 B+26 B19+25 2 6 3+2A 3+2 2A1+55 3+5 883+A 6+2A 3+2 BA 4 11 72+9B 3 2+75 3+5
     3+25 3+5 3+7 2 2 2 2+1E 3+34 2+6 2 4+2 2+6 4+3 3+5 5+C 6+2 2+6 12A 4+1 7 1C 12+1F
     4+1 332+33 717+70 2+1 2+1 8+65 8+3 4+1 D+25 2 6 7913+2D 13+1B 87+D 3+3D A+E 4+2 3+4
     2+18 2+1D 3+1 5+6 19+1 35D 1D+4F 4F41+6 D+4 40A+19 7+19 4A6+4F 61+23 5+23 75+A 2+E
     2+6 2+1 2+A 2+E 2+6 2+1 6C4+32 E+32 5E+15 B+15 B1B+3F 5561+3F 7A81+43"
  | "Changes_When_Lowercased" => some
    "41+19 66+16 2+6 22 2 2 2 2 2 2 2 2 2 2 2 2 2 2 2 2 2 2 2 2 2 2 2 2 2 2 2 3 2 2 2 2 2
     2 2 3 2 2 2 2 2 2 2 2 2 2 2 2 2 2 2 2 2 2 2 2 2 2 2+1 2 2 4+1 2 2+1 2+2 3+3 2+1 2+2
     4+1 2+1 2 2 2+1 2 3 2+1 2+2 2 2+1 4 8+1 2+1 2+1 2 2 2 2 2 2 2 2 3 2 2 2 2 2 2 2 2
     3+1 2 2+2 2 2 2 2 2 2 2 2 2 2 2 2 2 2 2 2 2 2 2 2 2 2 2 2 2 2 2 2 2 8+1 2+1 3 2+3 2
     2 2 2 122 2 4 9 7 2+2 2 2+1 2+10 2+8 24 9 2 2 2 2 2 2 2 2 2 2 2 6 3 2+1 3+32 31 2 2
     2 2 2 2 2 2 2 2 2 2 2 2 2 2 A 2 2 2 2 2 2 2 2 2 2 2 2 2 2 2 2 2 2 2 2 2 2 2 2 2 2
     2+1 2 2 2 2 2 2 3 2 2 2 2 2 2 2 2 2 2 2 2 2 2 2 2 2 2 2 2 2 2 2 2 2 2 2 2 2 2 2 2 2
     2 2 2 2 2 2 2 2 2 2 2 2 2 2 3+25 B4A+25 2 6 2D3+55 894 7+2A 3+2 141 2 2 2 2 2 2 2 2
     2 2 2 2 2 2 2 2 2 2 2 2 2 2 2 2 2 2 2 2 2 2 2 2 2 2 2 2 2 2 2 2 2 2 2 2 2 2 2 2 2 2
     2 2 2 2 2 2 2 2 2 2 2 2 2 2 2 2 2 2 2 2 2 2 2 2 A 2 2 2 2 2 2 2 2 2 2 2 2 2 2 2 2 2
     2 2 2 2 2 2 2 2 2 2 2 2 2 2 2 2 2 2 2 2 2 2 2 2 2 2 2 2 2 2 2 A+7 9+5 B+7 9+7 9+5 C
     2 2 2 9+7 19+7 9+7 9+7 9+4 C+4 C+3 D+4 C+4 12A 4+1 7 2E+F 14 333+19 731+2F 31 2+2 3
     2 2 2+3 2 3 9+2 2 2 2 2 2 2 2 2 2 2 2 2 2 2 2 2 2 2 2 2 2 2 2 2 2 2 2 2 2 2 2 2 2 2
     2 2 2 2 2 2 2 2 2 2 2 2 2 2 2 9 2 5 794E 2 2 2 2 2 2 2 2 2 2 2 2 2 2 2 2 2 2 2 2 2 2
     14 2 2 2 2 2 2 2 2 2 2 2 2 2 88 2 2 2 2 2 2 4 2 2 2 2 2 2 2 2 2 2 2 2 2 2 2 2 2 2 2
     2 2 2 2 2 2 2 2 2 2 2 B 2 2+1 2 2 2 2 5 2 3 2 4 2 2 2 2 2 2 2 2 2 2+4 2+4 2 2 2 2 2
     2 2 2+3 2 2+1 4 6 2 2 2 19 572C+19 4C6+27 89+23 9D+A 2+E 2+6 2+1 6EB+32 9E+15 B3B+1F
     5581+1F 7AA1+21"
  | "Changes_When_Titlecased" => some
    "61+19 3B 2A+17 2+7 2 2 2 2 2 2 2 2 2 2 2 2 2 2 2 2 2 2 2 2 2 2 2 2 2 2 2 2 3 2 2 2 2
     2 2 2+1 2 2 2 2 2 2 2 2 2 2 2 2 2 2 2 2 2 2 2 2 2 2 2 3 2 2+2 3 2 3 4 6 3 4+2 3 3 2
     2 3 5 3 4 2 3 4 2 5 2+1 2+1 2 2 2 2 2 2 2 2 2+1 2 2 2 2 2 2 2 2 2+2 2 2 4 2 2 2 2 2
     2 2 2 2 2 2 2 2 2 2 2 2 2 2 4 2 2 2 2 2 2 2 2 9 3+1 2 5 2 2 2 2+5 2+1 2 2+1 4+1 2+3
     2+4 3 2+1 3 8 3 2+1 4+5 6 B+1 A7 2C 2 4 4+2 13 1C+22 2+1 4+2 2 2 2 2 2 2 2 2 2 2 2
     2+4 2 3 3 35+2F 2 2 2 2 2 2 2 2 2 2 2 2 2 2 2 2 2 A 2 2 2 2 2 2 2 2 2 2 2 2 2 2 2 2
     2 2 2 2 2 2 2 2 2 2 3 2 2 2 2 2 2+1 2 2 2 2 2 2 2 2 2 2 2 2 2 2 2 2 2 2 2 2 2 2 2 2
     2 2 2 2 2 2 2 2 2 2 2 2 2 2 2 2 2 2 2 2 2 2 2 2 32+26 E71+5 883+8 2 EF 4 11 73 2 2 2
     2 2 2 2 2 2 2 2 2 2 2 2 2 2 2 2 2 2 2 2 2 2 2 2 2 2 2 2 2 2 2 2 2 2 2 2 2 2 2 2 2 2
     2 2 2 2 2 2 2 2 2 2 2 2 2 2 2 2 2 2 2 2 2 2 2 2 2 2 2 2 2+6 6 2 2 2 2 2 2 2 2 2 2 2
     2 2 2 2 2 2 2 2 2 2 2 2 2 2 2 2 2 2 2 2 2 2 2 2 2 2 2 2 2 2 2 2 2 2 2 2+8 9+5 B+7
     9+7 9+5 B+7 9+7 9+D 3+7 9+7 9+7 9+4 2+1 7 4+2 2+1 9+3 3+1 9+7 B+2 2+1 157 22+F 5
     34C+19 747+2F 2 4+1 2 2 2 7 3 B 2 2 2 2 2 2 2 2 2 2 2 2 2 2 2 2 2 2 2 2 2 2 2 2 2 2
     2 2 2 2 2 2 2 2 2 2 2 2 2 2 2 2 2 2 2 2 2 2 2 9 2 5 D+25 2 6 7914 2 2 2 2 2 2 2 2 2
     2 2 2 2 2 2 2 2 2 2 2 2 2 14 2 2 2 2 2 2 2 2 2 2 2 2 2 88 2 2 2 2 2 2 4 2 2 2 2 2 2
     2 2 2 2 2 2 2 2 2 2 2 2 2 2 2 2 2 2 2 2 2 2 2 2 B 2 3 2 2 2 2 5 5 2+1 3 2 2 2 2 2 2
     2 2 2 C 2 2 2 2 2 2 2 5 2 3 4 6 2 2 1B 35D 1D+4F 4F41+6 D+4 42A+19 4CE+27 89+23 9C+A
     2+E 2+6 2+1 704+32 7E+15 B3B+1F 5581+1F 7AA3+21"
  | "Changes_When_Uppercased" => some
    "61+19 3B 2A+17 2+7 2 2 2 2 2 2 2 2 2 2 2 2 2 2 2 2 2 2 2 2 2 2 2 2 2 2 2 2 3 2 2 2 2
     2 2 2+1 2 2 2 2 2 2 2 2 2 2 2 2 2 2 2 2 2 2 2 2 2 2 2 3 2 2+2 3 2 3 4 6 3 4+2 3 3 2
     2 3 5 3 4 2 3 4 2 6+1 2+1 2+1 2 2 2 2 2 2 2 2+1 2 2 2 2 2 2 2 2 2+1 2+1 2 4 2 2 2 2
     2 2 2 2 2 2 2 2 2 2 2 2 2 2 2 4 2 2 2 2 2 2 2 2 9 3+1 2 5 2 2 2 2+5 2+1 2 2+1 4+1
     2+3 2+4 3 2+1 3 8 3 2+1 4+5 6 B+1 A7 2C 2 4 4+2 13 1C+22 2+1 4+2 2 2 2 2 2 2 2 2 2 2
     2 2+4 2 3 3 35+2F 2 2 2 2 2 2 2 2 2 2 2 2 2 2 2 2 2 A 2 2 2 2 2 2 2 2 2 2 2 2 2 2 2
     2 2 2 2 2 2 2 2 2 2 2 3 2 2 2 2 2 2+1 2 2 2 2 2 2 2 2 2 2 2 2 2 2 2 2 2 2 2 2 2 2 2
     2 2 2 2 2 2 2 2 2 2 2 2 2 2 2 2 2 2 2 2 2 2 2 2 2 32+26 B49+2A 3+2 2F9+5 883+8 2 EF
     4 11 73 2 2 2 2 2 2 2 2 2 2 2 2 2 2 2 2 2 2 2 2 2 2 2 2 2 2 2 2 2 2 2 2 2 2 2 2 2 2
     2 2 2 2 2 2 2 2 2 2 2 2 2 2 2 2 2 2 2 2 2 2 2 2 2 2 2 2 2 2 2 2 2 2 2 2+6 6 2 2 2 2
     2 2 2 2 2 2 2 2 2 2 2 2 2 2 2 2 2 2 2 2 2 2 2 2 2 2 2 2 2 2 2 2 2 2 2 2 2 2 2 2 2 2
     2+8 9+5 B+7 9+7 9+5 B+7 9+7 9+D 3+34 2+1 5 2 4+2 2+1 5 4+3 3+1 9+7 B+2 2+1 5 152
     22+F 5 34C+19 747+2F 2 4+1 2 2 2 7 3 B 2 2 2 2 2 2 2 2 2 2 2 2 2 2 2 2 2 2 2 2 2 2 2
     2 2 2 2 2 2 2 2 2 2 2 2 2 2 2 2 2 2 2 2 2 2 2 2 2 2 9 2 5 D+25 2 6 7914 2 2 2 2 2 2
     2 2 2 2 2 2 2 2 2 2 2 2 2 2 2 2 14 2 2 2 2 2 2 2 2 2 2 2 2 2 88 2 2 2 2 2 2 4 2 2 2
     2 2 2 2 2 2 2 2 2 2 2 2 2 2 2 2 2 2 2 2 2 2 2 2 2 2 2 B 2 3 2 2 2 2 5 5 2+1 3 2 2 2
     2 2 2 2 2 2 C 2 2 2 2 2 2 2 5 2 3 4 6 2 2 1B 35D 1D+4F 4F41+6 D+4 42A+19 4CE+27
     89+23 9C+A 2+E 2+6 2+1 704+32 7E+15 B3B+1F 5581+1F 7AA3+21"
  | "Dash" => some
    "2D 55D 34 E42 406 80A+5 3E 28 10 187 C05 3 20+1 5 1D 1BF 14 70 CD91+1 26 B AA E61
     13F"
  | "Default_Ignorable_Code_Point" => some
    "AD 2A2 2CD B43+1 654+1 56+4 7FC+4 1B+4 32+F 10F5 CC9C+F F0 A1 50+8 BCA8+3 14D0+7
     C2E86+FFF"
  | "Deprecated" => some
    "149 52A 904 2 82A+1 8C6+5 2BA+1 DDCD7"
  | "Diacritic" => some
    "5E 2 48 7 5 3+1 1F8+9E 2+7 6+5 12+1 5 A+1 FE+4 D2 38+10 2+1A 2 2+1 2 87+7 5+1 87+1
     5+1 4+2 44+1A 5C+A 3B+A 23+1 7F+7 2A+9 11+1B 3E 11 4+3 1D 4B 11 6F 11 6F 11 30+2 3D
     11 8 78 6F 11 6F 11 6E+1 11 7D 70 D+5 2 6C E+4 4C+1 1C 2 2 5+1 43+2 2+1 3F 71 2+1
     29+1 5+4 1A+6 2 B+1 2C2+2 3B5+1 1F 95+A A 15C+2 125 15+7 3 31+E 3+A 69 10 27+8 37+1
     3B C+1 43+1 41+5 53+18 5 7 3+2 33+3E 5A+B 26+A 1BE 2+2 C+2 E+2 E+2 E+1 CF1+2 13E
     1FB+5 6A+3 60 7573 D+1 2 1D+1 53+1 F+21 67+2 6E+1 D 26 98 1C+11 3A+3 25 60 D 25 96+2
     42+3 34 65+4 A+2 81+1 4F31 302+F 10F 2 30 2E+1 44 2FD 4A0+5 2+29 2+8 27E+2 5 A6+1
     23C+5 27 1B+4 190+2 47+A 32+3 C1 2A 49+1 79+1 3F 4D A+2 69+1 B3+1 51+1 11 19+6 4+4
     5A+2 2+1 E+1 60 4 7C+1 FC+1 7F 77+1 74 10E+1 103+1 5 9D 54 13 52 1A6 103 2+1 52
     1AA+1 18 14ED+E 2CDA 9C1+4 3C+6 235+1 223+10 51+1 3FFF+3 2+6 2+1 1F02+2D 3+16 221+2
     4+5 9+7 3+6 1F+3 E83+3D C3+6 178 3E+3 2FF+1 2E1+6 6E+2 2+2"
  | "Emoji" => some
    "23 7 6+9 70 5 1F8E D D9 17 5B+5 10+1 170+1 D A7 1A+A 5+2 C8 E8+1 B A 3B+3 2+4 A 3
     3+1 3 5 3 2+1 3 4 4+1 9+2 6 2 6+B C+1 3 2+1 2 13 3+1 13+5 2 2+1 4+1 6 3+1 5+1 C+1
     6+1 3 6+1 2 2+1 15+1 6+5 2+3 3 5 3 3+5 2 3 2 2 7 4 7 B+1 10 3 5 2 5+2 2 C+1 31+2 A F
     F 175+1 1D0+2 14+1 34 5 4DB D 25A 2 1BD6B CB A1+1 D+1 F 3+9 4C+19 2+1 18 15 3+8 16+1
     AF+21 3+6F 3+1 2+2 3+52 3+2 2+106 2+3E C+5 2+17 8+1 3+7 D 3+3 3 5+1 E+1 3 9+1 A 6+2
     D+2 9+2 3 2 5 7 4 7+55 31+45 6+7 3+2 5+9 4 2+1 4 3+9 E4+B 5 11C+2E 2+9 2+B8 71+C 4+9
     6+37 8+E 3+A 7+8"
  | "Emoji_Component" => some
    "23 7 6+9 1FD4 D6 DD2C F3D7+19 1FC+4 5B1+3 C066D+5F"
  | "Emoji_Modifier" => some
    "1F3FB+4"
  | "Emoji_Modifier_Base" => some
    "261D DC 11+3 1CC78 3D+2 3 3+2 76+1 3+A 16+12 4 5+2 2+2 8 2 19 CA+1 5 16 5+1 AF+2 4+4
     54 11+2 A C 240 3 9+7 7 A+9 3+2 39 3E+1 2+1 2 12+2 2+C E6+2 2B+8"
  | "Emoji_Presentation" => some
    "231A+1 CE+3 4 3 20A+1 16+1 33+B 2C 14 E 9+1 12+1 6+1 9 6 16 8+1 2 5 3 8 5+1 1D 24 2
     5+2 2 3E+2 19 F 35C+1 34 5 1C4AF CB BF 3+9 4C+19 2 19 15 3+4 2+2 16+1 AF+20 D+8 2+45
     2+15 D+2A 5+4 D+10 4 4+46 2 2+BA 3+3E E+3 2+17 13 1B+1 E 57+54 31+45 7 4+2 3+2 5+3
     C+1 8+8 E4+B 5 11C+2E 2+9 2+B8 71+C 4+9 6+37 8+E 3+A 7+8"
  | "Extended_Pictographic" => some
    "A9 5 1F8E D D9 17 5B+5 10+1 170+1 D 60 47 1A+A 5+2 C8 E8+1 B A 3B+3 2+5 2+B 2+71
     B+75 3+A 2 2 7 4 7 B+1 10 3 5 2 5+2 2 C+4 2E+2 A F F 175+1 1D0+2 14+1 34 5 4DB D 25A
     2 1BD67+FF E+2 20 3D+5 D+1 F 3+9 13+38 1C+E B 15 3+8 2+3 A+1B1 6+13D 9+109 31+7F
     75+B 56+2A D+3 39+7 B+5 29+7 1F+51 D+2E 2+9 2+1B8 101+3FD"
  | "Extender" => some
    "B7 219+1 36F 1BA 277 8A 5A 2F1 80 944 39 264 18F 45 138A 2C+4 68+1 5E+2 6F17 5F7 3C3
     17 8A 6D 16+1 547C 811+1 5CC 1C 5 4C8 126 75+1 1F3+2 4D0 50AA+1 49D+1 2 7159+1 4B2
     355+2"
  | "Grapheme_Base" => some
    "20+5E 22+C 2+251 71+7 3+5 5+6 2 2+13 2+DF 8+A5 2+25 3+31 3+2 2F 2 3 3 A+1A 5+5 12+9
     C 2+2D 16+F 2+64 9 7+1 3 5+1F 3 2+1D 1E+58 C F+2A A+6 4+17 5 A 4 8+E 2+18 6 2+A 6+1E
     12+29 3A+36 2 2+3 9+3 2+2 8+9 3+1C 2+1 2+7 3+1 3+15 2+6 2 4+3 4 2+1 7+1 3+1 2 E+1
     2+2 5+17 6 2+5 5+1 3+15 2+6 2+1 2+1 2+1 5+2 19+3 2 8+9 3+2 2 D 2+8 2+2 2+15 2+6 2+1
     2+4 4+3 9 2+1 4 10+1 5+B 8 9+1 2+7 3+1 3+15 2+6 2+1 2+4 4 3 7+1 3+1 10+1 2+2 5+11 C
     2+5 4+2 2+3 4+1 2 2+1 4+1 4+2 4+B 6 2+1 4+2 2+2 4 16+14 7+2 2+7 2+2 2+16 2+F 4 4+3
     14+2 3 3+1 5+9 8+9 2+A 2+2 2+16 2+9 2+4 4+1 3 2+1 19+1 2+1 5+9 2+2 F+A 2+2 2+28 3
     2+1 6+2 2+2 2+1 5+2 2+9 5+19 3+1 2+11 4+17 2+8 2 3+6 A+1 7+6 8+9 3+2 D+2F 2+1 C+7
     9+C 26+1 2 2+4 2+17 2 2+9 2+1 A 3+4 2 A+9 3+3 21+17 3+1A 2 2 2+D 2+23 13 6 3+4 32+7
     2+5 2+C 26+2C 5 7 3+1 3+18 3+3 4+F 5+C 2+1 3+5 2+E 2+27 2 6 3+178 2+3 3+6 2 2+3 3+28
     2+3 3+20 2+3 3+6 2 2+3 3+E 2+38 2+3 3+42 6+1C 4+19 7+55 3+5 3+29C 4+58 8+11 E+12 4+1
     A+11 F+C 2+2 10+33 3 8+7 2+1 C+8 4+9 7+9 7+A 6+9 7+58 8+4 3+21 2 6+45 B+1E 5+3 3+2
     5+1 2+5 8 4+29 3+4 C+2B 5+19 7+A 4+38 3+1 4+37 2 A 2+1 9+5 E+9 7+9 7+D 57+2F B+3 4+7
     2+1C A+B 3+1F 5+1 7+37 2 3+2 2 E+2F 9+1 6+E 4+3D 6+2A 3+A C E 8+3 2+5 2+2 3 6+BF
     41+115 3+5 3+25 3+5 3+7 2 2 2 2+1E 3+34 2+E 2+D 3+5 2+12 3+2 2+8 2+A 6+17 8+30 11+1
     3+1A 2+C 4+20 40+8B 5+299 17+A 16+713 3+1F 2+157 4+1 6+2C 2 6 3+37 8+1 10+16 A+6 2+6
     2+6 2+6 2+6 2+6 2+6 2+6 22+5D 23+19 2+58 D+D5 1B+39 7+F 2+55 5+64 6+2A 2+5D 2+55
     A+2F 2+726C 4+36 A+15B 15+2E 5 B+1F 3+4F 3+5 9+CD 3+1 2 2+7 16+F 2+2 2+3 2+18 3+4
     5+9 7+37 9+43 B+B 19+C 2+25 9+18 C D+1D 7+2F 2+1 5+1 3+1 2+C 2+A 5+6 2+18 2+28 7+1
     3+1 C+2 2+7 2 3+9 3+1F 2+32 2 4+1 3+4 3 2 19+10 3+7 C+5 3+5 3+5 A+6 2+6 2+3B 5+74
     2+1 2+3 4+9 7+2BA3 D+16 5+30 2105+16D 3+69 27+6 D+4 6 2+17 2+4 2 2+1 2+1 2+7C 11+1BC
     3+35 8 21+F 11+9 17+22 2+12 2+3 5+4 2+86 5+9C 3+1E 4+5 3+5 3+5 3+2 4+6 2+6 E+1 3+B
     2+19 2+12 2+1 2+E 3+D 23+7A 6+2 5+2C 4+57 2+C 4 30+2C 84+1C 4+30 11+1A 5+23 A+1D
     6+25 B+1D 2+24 5+D 2B+9D 3+9 7+23 5+23 5+27 9+33 C+B 2+E 2+6 2+1 2+A 2+E 2+6 2+1
     4+33 D+136 A+15 B+7 19+5 2+29 2+8 46+5 3 2+2B 2+1 4 3+16 2+47 9+8 31+12 2+1 6+20
     4+1A 6 41+37 5+13 3+2E 10+3 2+2 2+1C B+8 8+8 8+3F 21+24 7+B A+35 4+1C 3+1A 6+19 8+3
     D+6 51+48 38+32 E+32 8+29 D+9 7+25 9+17 9+1 D1+1E 2+29 4 3+1 11+2 3C+27 9+15 C+8
     17+11 5+3 27+1B 15+16 A 2+35 10+6 5+1D 2+1 3 D+30 5+1 3+1 2+3 F+18 8+9 A+23 6 A+11
     9+22 2+2 C+33 A 2+7 5+1 2+F 2+13 C+11 2+1B 4+1 5+5 2+1 40+6 2 2+3 2+E 2+A 7+2E 2+2
     E+9 9+1 2+7 3+1 3+15 2+6 2+1 2+4 4 2 2+3 3+1 3+1 4 D+6 1D+9 2 3 2+25 2 2+1 10 2+1 4
     2+2 2+1 28+37 9+1 4 2+14 2 2+2 1F+2F 2+1 7 2+1 2 3 3+3 9+9 A7+2E 2+1 7+3 3 3+1A
     25+32 9+1 2 3+3 C+9 7+C 14+2A 2 2+1 9+1 7+9 7+13 1D+1A 4 2+1 5 A+16 BA+2E A 3 65+52
     D+7 3 3+7 2+1 2+17 2+4 2+1 7+3 2+2 A+9 47+7 3+29 9+3 2+3 1C B+27 7+1 5+7 A 7+1 4+2D
     E 3+8 E+48 8+9 B7+21 F+9 7+8 2+25 F 2+5 B+1C 4+1F 1A 8 3 4C+6 2+1 2+25 16 A+9 7+5
     2+1 2+24 5+1 2 2 8+9 137+12 3+3 A+E 2+23 9+1 4+16 57 10+31 E+39A 67+6E 2+4 C+C3
     A4D+62 E+42F 12+5 1A+F9A 6+246 1ABA+1D D+2 4+9 6C7+238 8+1E 2+9 5+50 2+9 7+1D 8 B+2F
     8+E B+9 2+6 2+14 6+12 1B1+39 C7+5A 66+4A 6+37 C+C 41+3 1D+17F7 9+4D5 2A+9 22E8+3 2+6
     2+1 2+122 10 1E+2 3 F+3 9+18B 905+6A 6+C 4+8 8+9 3 3 F61+F9 7+1B3 9D+73 3D+F5 B+26
     3+3B 6+2 17+1 8+1D 5+3C 16+41 4 7B+13 D+13 D+56 A+18 88+54 2+46 2+1 3 3+1 3+3 2+B 2
     2+6 2+40 2+3 3+7 2+6 2+1B 2+3 2+4 2 4+6 2+153 3+123 3+231 38+3 33+7 2+D 2+6 475+1E
     7+5 106+3D 93+2C B+6 3+9 5+1 141+1D 13+2B 5+9 6 1D1+1B 5+9 D7+1D 3+A 5 1E1+6 2+3 2+1
     2+E 2+C4 3+8 31+43 8 5+9 5+1 312+43 4D+3C C3+3 2+1A 2+1 2 3 2+9 2+3 2 2 7 5 2 2 2+2
     2+1 2 3 2 2 2 2 2+1 2 3+3 2+6 2+3 2+3 2 2+9 2+10 6+2 2+4 2+10 35+1 10F+2B 5+63 D+E
     3+E 2+E 2+24 B+AD 39+1C E+2B 5+8 8+1 F+5 9B+3D7 5+10 4+C 4+76 5+5E 7+B 5 10+B 5+37
     9+9 7+27 9+1D 3+B 5+1 3F+153 D+D 3+C 4+9 6+37 8+E 3+A 7+8 8+92 2+65 407+A6DF 21+1039
     7+DD 3+1681 F+1D30 10+26D 9A3+21D 5E3+134A 6+105F"
  | "Grapheme_Extend" => some
    "300+6F 114+6 108+2C 2 2+1 2+1 2 49+A 31+14 11 66+6 3+5 3+1 2+3 24 1F+1A 5C+A 3B+8 A
     19+3 2+8 2+2 2+4 2C+2 3C+8 2B+17 2+1F 38 2 5+7 5 4+6 B+1 1E 3B 2 3+3 9 A B+1 1B 3+1
     3A 5+1 5+1 3+2 4 1F+1 4 C+1 3A 5+4 2+1 5 15+1 17+5 2 3B 2+1 2+3 9 8+2 B+1 1F 3C 2 D
     A 29 4 38 2+2 6+2 2+3 8+1 C+1 1E 3B 3+1 2 4+2 2+3 8+1 C+1 1D+1 3A+1 2 3+3 9 A B+1 1E
     49 5 3+2 2 9 52 3+6 D+7 63 3+8 C+6 4A+1 1C 2 2 38+D 2+4 2+1 6+A 2+23 A 67+3 2+5 2+1
     3+1 1A+1 5+2 11+3 E 3+1 7 10 2C0+2 3B3+3 1D+2 1E+1 1F+1 41+1 2+6 9 3+A A 2E+2 2 76+1
     23 77+2 5+1 A 7+2 DC+1 3 3B 2+6 2 2 3+7 7+9 3 31+1E 32+3 31+9 5+2 27+8 D+1 21+3 3+5
     39 2+1 4 2+4 39+7 3+1 99+2 2+C 2+6 5 7 4+1 C7+3F 20D C4+20 BFF+2 8E 61+1F 22B+5 6A+1
     75D5+3 2+9 21+1 51+1 111 4 5 1A+1 6 98+1 1B+11 E 27+7 1A+A 2 2D+2 31 3+3 3+1 3 25
     44+5 3+1 3+1 D 9 30 34 2+2 3+1 6+1 2 2B+1 9 EF 3 5 4F31 2E2+F 11+F 16F+1 25E E3 96+4
     687+2 2+1 6+3 29+2 5 A6+1 23E+3 42+4 13E+1 50+3 47+A 32+3 7C 37+E 2A 3+1 B+2 32+3
     3+1 8 3E+2 25+4 2+7 3F D+1 35+8 2 9+3 3 60+2 3+3 7 3 9E 4+7 16+1 3A+1 2 2 D A F+6
     4+4 44 3+5 2 3 2+2 5+2 2 F+1 56+7 3+2 2 18 52 3+5 2 3 2+1 2+1 EC 3+3 7+1 2+1 1C+1
     56+7 3 2+1 6B 2 3+7 66 2 3+3 2+4 104+8 2+1 F6 B+3 5 91+3 3+1 5 21+9 29+5 3+3 9 A+5
     3+2 2F+C 2+1 197+6 2+5 2 53+15 3+6 2+1 2+1 7B+5 4 2+1 2+6 2 49+1 4 2 15C+1 C+1 35+4
     6+2 18 14E6 7+E 2CC9+B 4+2 9C1+4 3C+6 419 40+3 52 C+1 4CAC+1 1262+2D 3+16 21F+4 4+5
     9+7 3+6 1F+3 95+2 7BC+36 5+31 9 F 17+4 2+E 551+6 2+10 3+6 2+1 2+4 65 A1+6 178 3E+3
     1FD+3 FF+1 2E1+6 6E+6 C16D6+5F 81+EF"
  | "Grapheme_Link" => some
    "94D 80 80 80 80 80 80 80 6E+1 11 7D 70 80 CA B5+1 6DA+1 1F 9E 28E E4 66+1 47+1 118C
     7A87 26 98 8F 6D 136 F7 5E52 607 2A F 3A 7A+1 8C 75 B5 63 81+2 72 80 FD 80 77 75 10E
     104+1 A2 54 13 52 1A6 105+1 52 1AA+1 41ED"
  | "Hex_Digit" => some
    "30+9 8+5 1B+5 FEAA+9 8+5 1B+5"
  | "Hyphen" => some
    "2D 80 4DD 127C 80A+1 E06 2E4 CD68 AA 58"
  | "IDS_Binary_Operator" => some
    "2FF0+1 3+9 1F2"
  | "IDS_Trinary_Operator" => some
    "2FF2+1"
  | "IDS_Unary_Operator" => some
    "2FFE+1"
  | "ID_Compat_Math_Continue" => some
    "B2+1 6 1FB7 4+A 2+E 174 5 17 1B4A3 1A 20 1A 20 1A 20 1A 20 1A"
  | "ID_Compat_Math_Start" => some
    "2202 5 17 1B4A3 1A 20 1A 20 1A 20 1A 20 1A"
  | "ID_Continue" => some
    "30+9 8+19 5 2+19 30 B 2 3 6+16 2+1E 2+1C9 5+B F+4 8 2 12+74 2+1 3+3 2 7+4 2 2+13
     2+52 2+8A 2+4 3+A5 2+25 3 7+28 9+2C 2 2+1 2+1 2 9+1A 5+3 1E+A 6+49 5+65 2+7 3+9 2+12
     3 11+3A 3+64 F+35 5 3 3+2D 13+1B 5+A 6+17 2+5 9+4A 2+80 3+9 2+12 2+7 3+1 3+15 2+6 2
     4+3 3+8 3+1 3+3 9 5+1 2+4 3+B B 2 3+2 2+5 5+1 3+15 2+6 2+1 2+1 2+1 3 2+4 5+1 3+2 4
     8+3 2 8+F C+2 2+8 2+2 2+15 2+6 2+1 2+4 3+9 2+2 2+2 3 10+3 3+9 A+6 2+2 2+7 3+1 3+15
     2+6 2+1 2+4 3+8 3+1 3+2 8+2 5+1 2+4 3+9 2 11+1 2+5 4+2 2+3 4+1 2 2+1 4+1 4+2 4+B 5+4
     4+2 2+3 3 7 F+9 11+C 2+2 2+16 2+F 3+8 2+2 2+3 8+1 2+2 3 3+3 3+9 11+3 2+7 2+2 2+16
     2+9 2+4 3+8 2+2 2+3 8+1 7+1 2+3 3+9 2+2 D+C 2+2 2+32 2+2 2+4 6+3 8+4 3+9 B+5 2+2
     2+11 4+17 2+8 2 3+6 4 5+5 2 2+7 7+9 3+1 E+39 6+E 2+9 28+1 2 2+4 2+17 2 2+16 3+4 2
     2+6 2+9 3+3 21 18+1 7+9 C 2 2 5+9 2+23 5+13 2+11 2+23 A 3A+49 7+4D 3+25 2 6 3+2A
     2+14C 2+3 3+6 2 2+3 3+28 2+3 3+20 2+3 3+6 2 2+3 3+E 2+38 2+3 3+42 3+2 A+8 F+F 11+55
     3+5 4+26B 3+10 2+19 6+4A 4+A 8+15 A+15 C+13 D+C 2+2 2+1 D+53 4 5+1 3+9 22+2 2+A 7+58
     8+2A 6+45 B+1E 2+B 5+B B+27 3+4 C+2B 5+19 7+A 26+1B 5+3E 2+1C 3+A 7+9 E 9+D 2+F
     32+4C 4+9 12+8 D+73 D+37 9+9 4+30 3+A 6+2A 3+2 11+2 2+26 6+215 3+5 3+25 3+5 3+7 2 2
     2 2+1E 3+34 2+6 2 4+2 2+6 4+3 3+5 5+C 6+2 2+6 10+1 32+1 14 1D E 11+C 34+C 5 4+B 12 5
     3+9 2 3+5 7 2 2 2+F 3+3 6+4 5 12+28 A78+E4 7+8 D+25 2 6 3+37 8 10+17 A+6 2+6 2+6 2+6
     2+6 2+6 2+6 2+6 2+1F 206+2 1A+E 2+4 3+4 5+55 3+6 2+5E 6+2A 2+5D 12+1F 31+F 201+19BF
     41+568C 44+2D 3+10C 4+1B 15+2F 5+9 2+72 26+8 3+66 3+42 3+1 2 2+7 16+35 5 14+33 D+45
     B+9 7+17 4 2+30 3+23 D+1C 4+40 F+A 7+1E 2+36 A+D 3+9 7+16 4+48 19+2 3+F 3+4 B+5 3+5
     3+5 A+6 2+6 2+2A 2+D 7+7A 2+1 3+9 7+2BA3 D+16 5+30 2105+16D 3+69 27+6 D+4 6+B 2+C
     2+4 2 2+1 2+1 2+6B 22+16A 13+3F 3+35 29+B 5+F 11+F 4+1 19+2 21+4 2+86 14+9 8+19 5
     2+19 B+59 4+5 3+5 3+5 3+2 24+B 2+19 2+12 2+1 2+E 3+D 23+7A 46+34 89 83+1C 4+30 10
     20+1F E+1D 6+2A 6+1D 3+23 5+7 2+4 2B+9D 3+9 7+23 5+23 5+27 9+33 D+A 2+E 2+6 2+1 2+A
     2+E 2+6 2+1 4+33 D+136 A+15 B+7 19+5 2+29 2+8 46+5 3 2+2B 2+1 4 3+16 B+16 A+1E 42+12
     2+1 B+15 B+19 47+37 7+1 41+3 2+1 6+7 2+2 2+1C 3+2 5 21+1C 4+1C 24+7 2+1D 1A+35 B+15
     B+12 E+11 6F+48 38+32 E+32 E+27 9+9 7+25 4+4 2+16 FB+29 2+1 4+1 11+2 38+20 B 9+20
     20+15 2B+14 1C+16 A+46 20+F A+3B 8 E+18 8+9 7+34 2+9 5+3 9+23 3 A+44 5+3 2+C 2 24+11
     2+24 7+3 3F+6 2 2+3 2+E 2+9 8+3A 6+9 7+3 2+7 3+1 3+15 2+6 2+1 2+4 2+9 3+1 3+2 3 7
     6+6 3+6 4+4 C+9 2 3 2+25 2+9 2 3 2+3 2+7 E+1 1E+4A 6+9 5+3 1F+45 2 9+9 A7+35 3+8
     18+5 23+40 4 C+9 27+38 8+9 7+13 1D+1A 3+E 5+9 7+6 BA+3A 66+49 16+7 3 3+7 2+1 2+1D
     2+1 3+8 D+9 47+7 3+2D 3+7 2+1 1C+3E 9 9+49 4 13+48 C8+20 10+9 7+8 2+2C 2+8 10+9
     19+1D 3+15 2+D 4A+6 2+1 2+2B 4 2+1 2+8 9+9 7+5 2+1 2+24 2+1 2+5 8+9 137+16 A+10 2+28
     4+4 E+A 56 50+399 67+6E 12+C3 A4D+60 10+42F 11+15 B+F9A 6+246 1ABA+39 6C7+238 8+1E
     2+9 7+4E 2+9 7+1D 3+4 C+36 A+3 D+9 A+14 6+12 1B1+2C 4+9 C7+3F 81+4A 5+38 8+10 41+1
     2+1 C+1 F+17F7 9+4D5 2A+9 22E8+3 2+6 2+1 2+122 10 1E+2 3 F+3 9+18B 905+6A 6+C 4+8
     8+9 4+1 1052+9 207+2D 3+16 21F+4 4+5 9+7 3+6 1F+3 95+2 1BC+54 2+46 2+1 3 3+1 3+3 2+B
     2 2+6 2+40 2+3 3+7 2+6 2+1B 2+3 2+4 2 4+6 2+153 3+18 2+18 2+1E 2+18 2+1E 2+18 2+1E
     2+18 2+1E 2+18 2+7 3+31 201+36 5+31 9 F 17+4 2+E 451+1E 7+5 D6+6 2+10 3+6 2+1 2+4
     6+3D 22 71+2C 4+D 3+9 5 142+1E 12+39 1D7+29 D7+2A 1E6+6 2+3 2+1 2+E 2+C4 C+6 2A+4B
     5+9 4A7+3 2+1A 2+1 2 3 2+9 2+3 2 2 7 5 2 2 2+2 2+1 2 3 2 2 2 2 2+1 2 3+3 2+6 2+3 2+3
     2 2+9 2+10 6+2 2+4 2+10 D35+9 407+A6DF 21+1039 7+DD 3+1681 F+1D30 10+26D 9A3+21D
     5E3+134A 6+105F ADD51+EF"
  | "ID_Start" => some
    "41+19 7+19 30 B 5 6+16 2+1E 2+1C9 5+B F+4 8 2 82+4 2+1 3+3 2 7 2+2 2 2+13 2+52 2+8A
     9+A5 2+25 3 7+28 48+1A 5+3 2E+2A 24+1 2+62 2 10+1 8+1 B+2 3 11 2+1D 1E+58 C 19+20
     A+1 5 6+15 5 A 4 18+18 8+A 6+17 2+5 12+29 3B+35 4 13 8+9 10+F 5+7 3+1 3+15 2+6 2 4+3
     4 11 E+1 2+2 F+1 B 9+5 5+1 3+15 2+6 2+1 2+1 2+1 20+3 2 14+2 11+8 2+2 2+15 2+6 2+1
     2+4 4 13 10+1 18 C+7 3+1 3+15 2+6 2+1 2+4 4 1F+1 2+2 10 12 2+5 4+2 2+3 4+1 2 2+1 4+1
     4+2 4+B 17 35+7 2+2 2+16 2+F 4 1B+2 3 3+1 1F 5+7 2+2 2+16 2+9 2+4 4 20+1 2+1 10+1
     12+8 2+2 2+28 3 11 6+2 9+2 19+5 6+11 4+17 2+8 2 3+6 3B+2F 2+1 D+6 3B+1 2 2+4 2+17 2
     2+9 2+1 A 3+4 2 16+3 21 40+7 2+23 1C+4 74+2A 15 11+5 5+3 4 4+1 8+2 5+C D 12+25 2 6
     3+2A 2+14C 2+3 3+6 2 2+3 3+28 2+3 3+20 2+3 3+6 2 2+3 3+E 2+38 2+3 3+42 26+F 11+55
     3+5 4+26B 3+10 2+19 6+4A 4+A 8+11 E+12 F+11 F+C 2+2 10+33 24 5 44+58 8+28 2 6+45
     B+1E 32+1D 3+4 C+2B 5+19 37+16 A+34 53 5E+2E 12+7 37+1D E+1 B+2B 1B+23 2A+2 B+23 3+A
     6+2A 3+2 2A+3 2+5 2+1 4 6+BF 41+115 3+5 3+25 3+5 3+7 2 2 2 2+1E 3+34 2+6 2 4+2 2+6
     4+3 3+5 5+C 6+2 2+6 75 E 11+C 66 5 3+9 2 3+5 7 2 2 2+F 3+3 6+4 5 12+28 A78+E4 7+3
     4+1 D+25 2 6 3+37 8 11+16 A+6 2+6 2+6 2+6 2+6 2+6 2+6 2+6 227+2 1A+8 8+4 3+4 5+55
     5+4 2+59 2+3 6+2A 2+5D 12+1F 31+F 201+19BF 41+568C 44+2D 3+10C 4+F B+1 15+2E 11+1E
     3+4F 28+8 3+66 3+42 3+1 2 2+7 16+F 2+2 2+3 2+16 1E+33 F+31 3F+5 4 2+1 C+1B B+16
     1A+1C 8+2E 1D 11+4 2+9 B+4 2+28 18+2 2+7 15+16 4 4+31 2 4+1 3+4 3 2 19+2 3+A 8+2 D+5
     3+5 3+5 A+6 2+6 2+2A 2+D 7+72 1E+2BA3 D+16 5+30 2105+16D 3+69 27+6 D+4 6 2+9 2+C 2+4
     2 2+1 2+1 2+6B 22+16A 13+3F 3+35 29+B 75+4 2+86 25+19 7+19 C+58 4+5 3+5 3+5 3+2 24+B
     2+19 2+12 2+1 2+E 3+D 23+7A 46+34 10C+1C 4+30 30+1F E+1D 6+25 B+1D 3+23 5+7 2+4
     2B+9D 13+23 5+23 5+27 9+33 D+A 2+E 2+6 2+1 2+A 2+E 2+6 2+1 4+33 D+136 A+15 B+7 19+5
     2+29 2+8 46+5 3 2+2B 2+1 4 3+16 B+16 A+1E 42+12 2+1 B+15 B+19 47+37 7+1 41 10+3 2+2
     2+1C 2B+1C 4+1C 24+7 2+1B 1C+35 B+15 B+12 E+11 6F+48 38+32 E+32 E+23 27+1B A+16
     FB+29 7+1 11+2 3C+1C B 9+15 2B+11 2F+14 1C+16 D+34 3A+1 3 E+2C 21+18 1B+23 1E 3 9+22
     4 D+2F F+3 16 2 24+11 2+18 14+1 40+6 2 2+3 2+E 2+9 8+2E 27+7 3+1 3+15 2+6 2+1 2+4 4
     13 D+4 1F+9 2 3 2+25 2 1A 2 2D+34 13+3 15+2 1F+2F 15+1 2 B9+2E 2A+3 25+2F 15 3C+2A E
     48+1A 26+6 BA+2B 75+3F 20+7 3 3+7 2+1 2+17 10 2 5F+7 3+26 11 2 1D B+27 8 16 C+2D 14
     13+48 C8+20 20+8 2+24 12 32+1D 71+6 2+1 2+25 16 1A+5 2+1 2+1F F 148+12 10 2+C 2+21
     7D 50+399 67+6E 12+C3 A4D+60 10+42F 12+5 1A+F9A 6+246 1ABA+1D 6E3+238 8+1E 12+4E
     12+1D 13+2F 11+3 20+14 6+12 1B1+2C D4+3F 81+4A 6 43+C 41+1 2 1D+17F7 9+4D5 2A+9
     22E8+3 2+6 2+1 2+122 10 1E+2 3 F+3 9+18B 905+6A 6+C 4+8 8+9 1767+54 2+46 2+1 3 3+1
     3+3 2+B 2 2+6 2+40 2+3 3+7 2+6 2+1B 2+3 2+4 2 4+6 2+153 3+18 2+18 2+1E 2+18 2+1E
     2+18 2+1E 2+18 2+1E 2+18 2+7 735+1E 7+5 106+3D 93+2C B+6 11 142+1D 13+2B 1E5+1B
     E5+1D 3 1F0+6 2+3 2+1 2+E 2+C4 3C+43 8 4B5+3 2+1A 2+1 2 3 2+9 2+3 2 2 7 5 2 2 2+2
     2+1 2 3 2 2 2 2 2+1 2 3+3 2+6 2+3 2+3 2 2+9 2+10 6+2 2+4 2+10 1145+A6DF 21+1039 7+DD
     3+1681 F+1D30 10+26D 9A3+21D 5E3+134A 6+105F"
  | "Ideographic" => some
    "3006+1 1A+8 F+2 3C6+19BF 41+51FF 5901+16D 3+69 750B 1C+17F7 9+4D5 2A+9 2468+18B
     4D05+A6DF 21+1039 7+DD 3+1681 F+1D30 10+26D 9A3+21D 5E3+134A 6+105F"
  | "Join_Control" => some
    "200C+1"
  | "Logical_Order_Exception" => some
    "E40+4 7C+4 AF1+2 3 90FB+1 3 2+1"
  | "Lowercase" => some
    "61+19 30 B 5 25+17 2+7 2 2 2 2 2 2 2 2 2 2 2 2 2 2 2 2 2 2 2 2 2 2 2 2 2 2 2 2+1 2 2
     2 2 2 2 2 2+1 2 2 2 2 2 2 2 2 2 2 2 2 2 2 2 2 2 2 2 2 2 2 2 3 2 2+2 3 2 3 4+1 5 3
     4+2 3 3 2 2 3 2+1 2 3 4 2 3+1 3+2 7 3 3 2 2 2 2 2 2 2 2+1 2 2 2 2 2 2 2 2 2+1 3 2 4
     2 2 2 2 2 2 2 2 2 2 2 2 2 2 2 2 2 2 2 2 2 2 2 2 2 2 2 2 2+6 3 3+1 2 5 2 2 2 2+44
     2+23 8+1 1F+4 61 2C 2 4 3+3 13 1C+22 2+1 4+2 2 2 2 2 2 2 2 2 2 2 2 2+4 2 3 3+1 34+2F
     2 2 2 2 2 2 2 2 2 2 2 2 2 2 2 2 2 A 2 2 2 2 2 2 2 2 2 2 2 2 2 2 2 2 2 2 2 2 2 2 2 2
     2 2 3 2 2 2 2 2 2+1 2 2 2 2 2 2 2 2 2 2 2 2 2 2 2 2 2 2 2 2 2 2 2 2 2 2 2 2 2 2 2 2
     2 2 2 2 2 2 2 2 2 2 2 2 2 2 2 2 31+28 B48+2A 2+3 2F9+5 883+8 2 76+BF 42 2 2 2 2 2 2
     2 2 2 2 2 2 2 2 2 2 2 2 2 2 2 2 2 2 2 2 2 2 2 2 2 2 2 2 2 2 2 2 2 2 2 2 2 2 2 2 2 2
     2 2 2 2 2 2 2 2 2 2 2 2 2 2 2 2 2 2 2 2 2 2 2 2 2 2+8 2 2 2 2 2 2 2 2 2 2 2 2 2 2 2
     2 2 2 2 2 2 2 2 2 2 2 2 2 2 2 2 2 2 2 2 2 2 2 2 2 2 2 2 2 2 2 2 2 2+8 9+5 B+7 9+7
     9+5 B+7 9+7 9+D 3+7 9+7 9+7 9+4 2+1 7 4+2 2+1 9+3 3+1 9+7 B+2 2+1 7A E 11+C 6E 4+1 4
     1C 5 5 3+1 9+3 5 22+F 5 34C+19 747+2F 2 4+1 2 2 2 5 2+1 2+7 4 2 2 2 2 2 2 2 2 2 2 2
     2 2 2 2 2 2 2 2 2 2 2 2 2 2 2 2 2 2 2 2 2 2 2 2 2 2 2 2 2 2 2 2 2 2 2 2 2 2+1 8 2 5
     D+25 2 6 7914 2 2 2 2 2 2 2 2 2 2 2 2 2 2 2 2 2 2 2 2 2 2 14 2 2 2 2 2 2 2 2 2 2 2 2
     2+2 86 2 2 2 2 2 2+2 2 2 2 2 2 2 2 2 2 2 2 2 2 2 2 2 2 2 2 2 2 2 2 2 2 2 2 2 2 2 2+9
     2 2 3 2 2 2 2 5 2 3 2+2 2 2 2 2 2 2 2 2 2 2 6 6 2 2 2 2 2 2 2 5 2 3 4 2 2 2 2 2 17+2
     2 2+2 336+2A 2+D 7+4F 4F41+6 D+4 42A+19 4CE+27 89+23 9C+A 2+E 2+6 2+1 1C4 3+2 2+29
     2+8 506+32 7E+15 B3B+1F 5581+1F 659B+19 1B+6 2+11 1B+19 1B+3 2 2+6 2+A 1B+19 1B+19
     1B+19 1B+19 1B+19 1B+19 1B+19 1B+19 1B+1B 1D+18 2+5 1B+18 2+5 1B+18 2+5 1B+18 2+5
     1B+18 2+5 2 735+9 2+13 7+5 106+3D 8B5+21"
  | "Math" => some
    "2B 11+2 20 1E 2 2E 5 26 20 2D9+2 3 1B+1 3+2 210+2 1A0E 1C+2 C 4 E F+3 16+4 C+4 42+C
     5 4+1 5+4 13 5 3+9 2 3+5 7 4+1 3+1 2+2 2+5 4+D 2 45+17 2+5 2+1 5+1 5+1F 2 7+1 F+10B
     9+3 15+1 5B 1F+1A 2 19 C+6 1BE+1 D+9 5+5 5+1 3+1 4+4 F 2 3+5 C+7 6+1 3A 2 1E+3 A+2
     151+3F 101+1FF 31+14 3+5 CFDD 338+5 2 A3 11+2 1E 2 1E 2 84 7+3 DA2+1 C671+54 2+46
     2+1 3 3+1 3+3 2+B 2 2+6 2+40 2+3 3+7 2+6 2+1B 2+3 2+4 2 4+6 2+153 3+123 3+31 1601+3
     2+1A 2+1 2 3 2+9 2+3 2 2 7 5 2 2 2+2 2+1 2 3 2 2 2 2 2+1 2 3+3 2+6 2+3 2+3 2 2+9
     2+10 6+2 2+4 2+10 35+1"
  | "Modifier_Combining_Mark" => some
    "654+1 3 84 7 4+1 1E2+1 2+2 4 20"
  | "Noncharacter_Code_Point" => some
    "FDD0+1F 20F+1 FFFF+1 FFFF+1 FFFF+1 FFFF+1 FFFF+1 FFFF+1 FFFF+1 FFFF+1 FFFF+1 FFFF+1
     FFFF+1 FFFF+1 FFFF+1 FFFF+1 FFFF+1 FFFF+1"
  | "Other_Alphabetic" => some
    "345 1E+C 241+D 2 2+1 2+1 2 49+A 31+C 2+6 11 66+6 5+3 3+1 5 24 1F+F 67+A 66+1 4+8 2+2
     2+3 6B 3D+B 4+6 7+13 37+1 3+E 2+1 6+2 B+1 1E+2 3B+6 3+1 3+1 B B+1 1E+2 3B+4 5+1 3+1
     5 1F+1 4 C+2 3B+7 2+2 2+1 16+1 17+2 5+2 3B+6 3+1 3+1 A+1 B+1 1F 3C+4 4+2 2+2 B 29+4
     3A+6 2+2 2+2 9+1 C+1 1E+2 3B+6 2+2 2+2 9+1 C+1 10 D+3 3B+6 2+2 2+2 B B+1 1E+2 4C+5 2
     2+7 13+1 3E 3+6 13 64 3+5 2+1 11 A4+12 A+A 2+23 6F+B 2 3+3 18+3 5+2 2+2 3+6 4+3 E+B
     2 B+3 675+1 1F+1 1F+1 1F+1 43+12 BD+1 23 77+B 5+8 DF+4 3A+9 3+13 4B+1 C+2 32+4 31+E
     3D+2 1F+8 3+1 3A+A 33+12 19D+21 6C2+33 8F7+1F 7875+7 23+1 163 9 18+4 59+1 33+F 2 3A
     27+4 1D+B 2E+3 31+B 26 44+D D 9+1 2E+2 33 2+2 3+1 6 2D+4 6 EE+7 4F34 858+4 687+2 2+1
     6+3 315+3 42 142+1 50 104+2 36+D 2E+1 C+2 2E+8 A 3E+2 25+B 13+1 3A+2 31+C F+1 5D+8 3
     7 3 9E+9 18+3 3B+6 3+1 3+1 B B+1 55+8 2 3 2+3 2+1 68+C 2+2 6B+11 EE+6 3+6 1E+1 53+E
     2 6B+A 68+D 102+C F8+5 2+1 3+1 4 2 8F+6 3+5 5 1D+9 2B+4 2+3 13+A 2F+D 198+7 2+6
     54+15 2+D 7B+5 4 2+1 2+2 2 4 43+4 2+1 2+3 15D+3 A+1 2 31+6 4+2 41DE+10 E21 2+36 8+3
     5E+1 4CAD 2362+6 2+10 3+6 2+1 2+4 65 8B8 7E9+19 7+19 7+19"
  | "Other_Default_Ignorable_Code_Point" => some
    "34F E10+1 654+1 8B0 10FF CE3C 50+8 D0008 2+1D 61+7F F1+E0F"
  | "Other_Grapheme_Extend" => some
    "9BE 19 167 19 67 19 E9 2 5+1 2+1 A+1 68 19 78 10 936 1F 401 6 2 6+1 66 48+1 419
     1022+1 7924 6D 55DE+1 1221 75 109 F A 61 A 3 2+2 6 E1 D F2 107 27A D 604 50AF+1
     6174+1 7+5 C2EAE+5F"
  | "Other_ID_Continue" => some
    "B7 2D0 FE2+8 669 632+1 10EE CE6A"
  | "Other_ID_Start" => some
    "1885+1 892 16 F6D+1"
  | "Other_Lowercase" => some
    "AA 10 1F6+8 8+1 1F+4 61 35 D82 C30+3E E 23+24 2B2 E 11+C D4+F 351+19 793+1 7A1F+1 D3
     82+2 4+1 363+3 A 5C17 3+2 2+29 2+8 D876+3D"
  | "Other_Math" => some
    "5E 372+2 3 1B+1 3+1 1C21 1C+2 C 21+3 19+1 F+1 42+C 5 4+1 5+4 13 5 3+9 2 4+4 7 4+1
     3+1 2+2 2+5 4+3 6+4 4C+4 3+3 2+1 2+1 2 2+4 3+1 5+1 5+11 3+1 2 2+6 2 7+1 123+3 A9+1 2
     19 12 1BE+1 D+8 6+4 6+1 3+1 4+4 F 2 3+5 19+1 3A 2 1E+3 A+1 157+1 20+9 194+15 40+3
     21+1 D464 2 5 D4 2 D4C2+54 2+46 2+1 3 3+1 3+3 2+B 2 2+6 2+40 2+3 3+7 2+6 2+1B 2+3
     2+4 2 4+6 2+153 3+18 2+18 2+1E 2+18 2+1E 2+18 2+1E 2+18 2+1E 2+18 2+7 3+31 1601+3
     2+1A 2+1 2 3 2+9 2+3 2 2 7 5 2 2 2+2 2+1 2 3 2 2 2 2 2+1 2 3+3 2+6 2+3 2+3 2 2+9
     2+10 6+2 2+4 2+10"
  | "Other_Uppercase" => some
    "2160+F 347+19 1CC61+19 7+19 7+19"
  | "Pattern_Syntax" => some
    "21+E B+6 1B+3 2 1B+3 23+6 2 2+1 2 2+1 5 5 4 18 20 1F19+17 9+E 3+12 2+9 132+2CF
     A1+275 1F+46B 201+7F 182+2 5+18 10 CD0E+1 106+1"
  | "Pattern_White_Space" => some
    "9+4 13 65 1F89+1 19+1"
  | "Prepended_Concatenation_Mark" => some
    "600+5 D8 32 181+1 51 107DB 10"
  | "Quotation_Mark" => some
    "22 5 84 10 1F5D+7 1A+1 E08 1CA+3 E+2 CE22+3 BE 5 5B+1"
  | "Radical" => some
    "2E80+19 2+58 D+D5"
  | "Regional_Indicator" => some
    "1F1E6+19"
  | "Sentence_Terminal" => some
    "21 D 11 54A 94+2 B5 2C+2 F7 3E 2 4+1 126+1 6E5+1 317 5+1 306 C7+1 9E+1 2E 6 13B+1
     163+3 A3+1 B+1 3+1 1E+2 BC+1 42+1 3A5 18+1 A+2 CB0+2 133 E 17+1 1AE 74FD 10F+1 E4 4
     17F+1 57+1 60 99+1 94+2 91+1 FA 5227 3+1 3C 4+1 AA D 11 42 AF5+1 4FE+4 2D+3 BE+1
     76+3 80+2 82+1 7 11+1 59+1 2+1 6D 12B+1 76+1 176+1 6+E 6A+1 FA+2 206 2 FC+1 58+1
     1A5+1 2B5+1 4B+1 4B2A+1 86 42+1 C 22A+1 129 4E07 1DE9"
  | "Soft_Dotted" => some
    "69+1 C5 11A 1F 35 15 141 63 2 190A 34 E 4 85 9E 1A6 D7+1 B33 1A7A6+1 33+1 33+1 33+1
     33+1 33+1 33+1 33+1 33+1 33+1 33+1 33+1 33+1 887 132+1 1B"
  | "Terminal_Punctuation" => some
    "21 B 2 C+1 4 33F 9 202 3A 49 F 2+2 B5 2C+A 2 EC+1 37+5 2+7 20 106+1 4F5+1 AD 5+5
     138+1 316+7 306 7D+2 48+1 9E+2 4 28+3 3+1 13B+1 163+3 A3+1 B+1 2+2 1E+2 BC+4 3F+1
     3A5 18+1 A+2 CB0+2 133 E 5 B 2+1 4+1 1AD+1 74FC+1 10E+2 E4+4 17F+1 57+1 60 98+2 94+2
     80 11+1 FA 5227 3+1 3A+2 2+3 AA B 2 C+1 4 42 3 43B 31 487 C8 137+1 99+5 45+5 5A+3
     3B9+4 2D+3 BE+6 71+3 80+2 82+1 7 11+1 59+4 6D 12B+1 76+2 D+1 167+3 4+E 6A+1 FA+2 206
     2 FC+1 58+1 5+1 19F+2 2E 286+1 4B+1 52C+4 45FA+1 86 42+2 B 22A+1 128+1 4E07 1DE8+3"
  | "Unified_Ideograph" => some
    "3400+19BF 41+51FF 5A0F+1 2 2+1 B 2 2+1 3+2 105D7+A6DF 21+1039 7+DD 3+1681 F+1D30
     10+26D 11A3+134A 6+105F"
  | "Uppercase" => some
    "41+19 66+16 2+6 22 2 2 2 2 2 2 2 2 2 2 2 2 2 2 2 2 2 2 2 2 2 2 2 2 2 2 2 3 2 2 2 2 2
     2 2 3 2 2 2 2 2 2 2 2 2 2 2 2 2 2 2 2 2 2 2 2 2 2 2+1 2 2 4+1 2 2+1 2+2 3+3 2+1 2+2
     4+1 2+1 2 2 2+1 2 3 2+1 2+2 2 2+1 4 8 3 3 3 2 2 2 2 2 2 2 3 2 2 2 2 2 2 2 2 3 3 2+2
     2 2 2 2 2 2 2 2 2 2 2 2 2 2 2 2 2 2 2 2 2 2 2 2 2 2 2 2 2 8+1 2+1 3 2+3 2 2 2 2 122
     2 4 9 7 2+2 2 2+1 2+10 2+8 24 3+2 4 2 2 2 2 2 2 2 2 2 2 2 6 3 2+1 3+32 31 2 2 2 2 2
     2 2 2 2 2 2 2 2 2 2 2 A 2 2 2 2 2 2 2 2 2 2 2 2 2 2 2 2 2 2 2 2 2 2 2 2 2 2 2+1 2 2
     2 2 2 2 3 2 2 2 2 2 2 2 2 2 2 2 2 2 2 2 2 2 2 2 2 2 2 2 2 2 2 2 2 2 2 2 2 2 2 2 2 2
     2 2 2 2 2 2 2 2 2 2 3+25 B4A+25 2 6 2D3+55 894 7+2A 3+2 141 2 2 2 2 2 2 2 2 2 2 2 2
     2 2 2 2 2 2 2 2 2 2 2 2 2 2 2 2 2 2 2 2 2 2 2 2 2 2 2 2 2 2 2 2 2 2 2 2 2 2 2 2 2 2
     2 2 2 2 2 2 2 2 2 2 2 2 2 2 2 2 2 2 2 2 A 2 2 2 2 2 2 2 2 2 2 2 2 2 2 2 2 2 2 2 2 2
     2 2 2 2 2 2 2 2 2 2 2 2 2 2 2 2 2 2 2 2 2 2 2 2 2 2 2 A+7 9+5 B+7 9+7 9+5 C 2 2 2
     9+7 49+3 D+3 D+3 D+4 C+3 107 5 4+2 3+2 3 4+4 7 2 2 2+3 3+3 B+1 6 1B+F 14 333+19
     731+2F 31 2+2 3 2 2 2+3 2 3 9+2 2 2 2 2 2 2 2 2 2 2 2 2 2 2 2 2 2 2 2 2 2 2 2 2 2 2
     2 2 2 2 2 2 2 2 2 2 2 2 2 2 2 2 2 2 2 2 2 2 2 9 2 5 794E 2 2 2 2 2 2 2 2 2 2 2 2 2 2
     2 2 2 2 2 2 2 2 14 2 2 2 2 2 2 2 2 2 2 2 2 2 88 2 2 2 2 2 2 4 2 2 2 2 2 2 2 2 2 2 2
     2 2 2 2 2 2 2 2 2 2 2 2 2 2 2 2 2 2 2 B 2 2+1 2 2 2 2 5 2 3 2 4 2 2 2 2 2 2 2 2 2
     2+4 2+4 2 2 2 2 2 2 2 2+3 2 2+1 4 6 2 2 2 19 572C+19 4C6+27 89+23 9D+A 2+E 2+6 2+1
     6EB+32 9E+15 B3B+1F 5581+1F 65A1+19 1B+19 1B+19 1B 2+1 3 3+1 3+3 2+7 1B+19 1B+1 2+3
     3+7 2+6 1C+1 2+3 2+4 2 4+6 1C+19 1B+19 1B+19 1B+19 1B+19 1B+19 1F+18 22+18 22+18
     22+18 22+18 22 1136+21 80F+19 7+19 7+19"
  | "Variation_Selector" => some
    "180B+2 2 E5F1+F D02F1+EF"
  | "XID_Continue" => some
    "30+9 8+19 5 2+19 30 B 2 3 6+16 2+1E 2+1C9 5+B F+4 8 2 12+74 2+1 4+2 2 7+4 2 2+13
     2+52 2+8A 2+4 3+A5 2+25 3 7+28 9+2C 2 2+1 2+1 2 9+1A 5+3 1E+A 6+49 5+65 2+7 3+9 2+12
     3 11+3A 3+64 F+35 5 3 3+2D 13+1B 5+A 6+17 2+5 9+4A 2+80 3+9 2+12 2+7 3+1 3+15 2+6 2
     4+3 3+8 3+1 3+3 9 5+1 2+4 3+B B 2 3+2 2+5 5+1 3+15 2+6 2+1 2+1 2+1 3 2+4 5+1 3+2 4
     8+3 2 8+F C+2 2+8 2+2 2+15 2+6 2+1 2+4 3+9 2+2 2+2 3 10+3 3+9 A+6 2+2 2+7 3+1 3+15
     2+6 2+1 2+4 3+8 3+1 3+2 8+2 5+1 2+4 3+9 2 11+1 2+5 4+2 2+3 4+1 2 2+1 4+1 4+2 4+B 5+4
     4+2 2+3 3 7 F+9 11+C 2+2 2+16 2+F 3+8 2+2 2+3 8+1 2+2 3 3+3 3+9 11+3 2+7 2+2 2+16
     2+9 2+4 3+8 2+2 2+3 8+1 7+1 2+3 3+9 2+2 D+C 2+2 2+32 2+2 2+4 6+3 8+4 3+9 B+5 2+2
     2+11 4+17 2+8 2 3+6 4 5+5 2 2+7 7+9 3+1 E+39 6+E 2+9 28+1 2 2+4 2+17 2 2+16 3+4 2
     2+6 2+9 3+3 21 18+1 7+9 C 2 2 5+9 2+23 5+13 2+11 2+23 A 3A+49 7+4D 3+25 2 6 3+2A
     2+14C 2+3 3+6 2 2+3 3+28 2+3 3+20 2+3 3+6 2 2+3 3+E 2+38 2+3 3+42 3+2 A+8 F+F 11+55
     3+5 4+26B 3+10 2+19 6+4A 4+A 8+15 A+15 C+13 D+C 2+2 2+1 D+53 4 5+1 3+9 22+2 2+A 7+58
     8+2A 6+45 B+1E 2+B 5+B B+27 3+4 C+2B 5+19 7+A 26+1B 5+3E 2+1C 3+A 7+9 E 9+D 2+F
     32+4C 4+9 12+8 D+73 D+37 9+9 4+30 3+A 6+2A 3+2 11+2 2+26 6+215 3+5 3+25 3+5 3+7 2 2
     2 2+1E 3+34 2+6 2 4+2 2+6 4+3 3+5 5+C 6+2 2+6 10+1 32+1 14 1D E 11+C 34+C 5 4+B 12 5
     3+9 2 3+5 7 2 2 2+F 3+3 6+4 5 12+28 A78+E4 7+8 D+25 2 6 3+37 8 10+17 A+6 2+6 2+6 2+6
     2+6 2+6 2+6 2+6 2+1F 206+2 1A+E 2+4 3+4 5+55 3+1 3+2 2+5E 6+2A 2+5D 12+1F 31+F
     201+19BF 41+568C 44+2D 3+10C 4+1B 15+2F 5+9 2+72 26+8 3+66 3+42 3+1 2 2+7 16+35 5
     14+33 D+45 B+9 7+17 4 2+30 3+23 D+1C 4+40 F+A 7+1E 2+36 A+D 3+9 7+16 4+48 19+2 3+F
     3+4 B+5 3+5 3+5 A+6 2+6 2+2A 2+D 7+7A 2+1 3+9 7+2BA3 D+16 5+30 2105+16D 3+69 27+6
     D+4 6+B 2+C 2+4 2 2+1 2+1 2+6B 22+8A 7+D9 13+3F 3+35 29+9 7+F 11+F 4+1 19+2 22 2 4 2
     2 2 2+7D 14+9 8+19 5 2+19 B+59 4+5 3+5 3+5 3+2 24+B 2+19 2+12 2+1 2+E 3+D 23+7A
     46+34 89 83+1C 4+30 10 20+1F E+1D 6+2A 6+1D 3+23 5+7 2+4 2B+9D 3+9 7+23 5+23 5+27
     9+33 D+A 2+E 2+6 2+1 2+A 2+E 2+6 2+1 4+33 D+136 A+15 B+7 19+5 2+29 2+8 46+5 3 2+2B
     2+1 4 3+16 B+16 A+1E 42+12 2+1 B+15 B+19 47+37 7+1 41+3 2+1 6+7 2+2 2+1C 3+2 5 21+1C
     4+1C 24+7 2+1D 1A+35 B+15 B+12 E+11 6F+48 38+32 E+32 E+27 9+9 7+25 4+4 2+16 FB+29
     2+1 4+1 11+2 38+20 B 9+20 20+15 2B+14 1C+16 A+46 20+F A+3B 8 E+18 8+9 7+34 2+9 5+3
     9+23 3 A+44 5+3 2+C 2 24+11 2+24 7+3 3F+6 2 2+3 2+E 2+9 8+3A 6+9 7+3 2+7 3+1 3+15
     2+6 2+1 2+4 2+9 3+1 3+2 3 7 6+6 3+6 4+4 C+9 2 3 2+25 2+9 2 3 2+3 2+7 E+1 1E+4A 6+9
     5+3 1F+45 2 9+9 A7+35 3+8 18+5 23+40 4 C+9 27+38 8+9 7+13 1D+1A 3+E 5+9 7+6 BA+3A
     66+49 16+7 3 3+7 2+1 2+1D 2+1 3+8 D+9 47+7 3+2D 3+7 2+1 1C+3E 9 9+49 4 13+48 C8+20
     10+9 7+8 2+2C 2+8 10+9 19+1D 3+15 2+D 4A+6 2+1 2+2B 4 2+1 2+8 9+9 7+5 2+1 2+24 2+1
     2+5 8+9 137+16 A+10 2+28 4+4 E+A 56 50+399 67+6E 12+C3 A4D+60 10+42F 11+15 B+F9A
     6+246 1ABA+39 6C7+238 8+1E 2+9 7+4E 2+9 7+1D 3+4 C+36 A+3 D+9 A+14 6+12 1B1+2C 4+9
     C7+3F 81+4A 5+38 8+10 41+1 2+1 C+1 F+17F7 9+4D5 2A+9 22E8+3 2+6 2+1 2+122 10 1E+2 3
     F+3 9+18B 905+6A 6+C 4+8 8+9 4+1 1052+9 207+2D 3+16 21F+4 4+5 9+7 3+6 1F+3 95+2
     1BC+54 2+46 2+1 3 3+1 3+3 2+B 2 2+6 2+40 2+3 3+7 2+6 2+1B 2+3 2+4 2 4+6 2+153 3+18
     2+18 2+1E 2+18 2+1E 2+18 2+1E 2+18 2+1E 2+18 2+7 3+31 201+36 5+31 9 F 17+4 2+E
     451+1E 7+5 D6+6 2+10 3+6 2+1 2+4 6+3D 22 71+2C 4+D 3+9 5 142+1E 12+39 1D7+29 D7+2A
     1E6+6 2+3 2+1 2+E 2+C4 C+6 2A+4B 5+9 4A7+3 2+1A 2+1 2 3 2+9 2+3 2 2 7 5 2 2 2+2 2+1
     2 3 2 2 2 2 2+1 2 3+3 2+6 2+3 2+3 2 2+9 2+10 6+2 2+4 2+10 D35+9 407+A6DF 21+1039
     7+DD 3+1681 F+1D30 10+26D 9A3+21D 5E3+134A 6+105F ADD51+EF"
  | "XID_Start" => some
    "41+19 7+19 30 B 5 6+16 2+1E 2+1C9 5+B F+4 8 2 82+4 2+1 4+2 2 7 2+2 2 2+13 2+52 2+8A
     9+A5 2+25 3 7+28 48+1A 5+3 2E+2A 24+1 2+62 2 10+1 8+1 B+2 3 11 2+1D 1E+58 C 19+20
     A+1 5 6+15 5 A 4 18+18 8+A 6+17 2+5 12+29 3B+35 4 13 8+9 10+F 5+7 3+1 3+15 2+6 2 4+3
     4 11 E+1 2+2 F+1 B 9+5 5+1 3+15 2+6 2+1 2+1 2+1 20+3 2 14+2 11+8 2+2 2+15 2+6 2+1
     2+4 4 13 10+1 18 C+7 3+1 3+15 2+6 2+1 2+4 4 1F+1 2+2 10 12 2+5 4+2 2+3 4+1 2 2+1 4+1
     4+2 4+B 17 35+7 2+2 2+16 2+F 4 1B+2 3 3+1 1F 5+7 2+2 2+16 2+9 2+4 4 20+1 2+1 10+1
     12+8 2+2 2+28 3 11 6+2 9+2 19+5 6+11 4+17 2+8 2 3+6 3B+2F 2 E+6 3B+1 2 2+4 2+17 2
     2+9 2 B 3+4 2 16+3 21 40+7 2+23 1C+4 74+2A 15 11+5 5+3 4 4+1 8+2 5+C D 12+25 2 6
     3+2A 2+14C 2+3 3+6 2 2+3 3+28 2+3 3+20 2+3 3+6 2 2+3 3+E 2+38 2+3 3+42 26+F 11+55
     3+5 4+26B 3+10 2+19 6+4A 4+A 8+11 E+12 F+11 F+C 2+2 10+33 24 5 44+58 8+28 2 6+45
     B+1E 32+1D 3+4 C+2B 5+19 37+16 A+34 53 5E+2E 12+7 37+1D E+1 B+2B 1B+23 2A+2 B+23 3+A
     6+2A 3+2 2A+3 2+5 2+1 4 6+BF 41+115 3+5 3+25 3+5 3+7 2 2 2 2+1E 3+34 2+6 2 4+2 2+6
     4+3 3+5 5+C 6+2 2+6 75 E 11+C 66 5 3+9 2 3+5 7 2 2 2+F 3+3 6+4 5 12+28 A78+E4 7+3
     4+1 D+25 2 6 3+37 8 11+16 A+6 2+6 2+6 2+6 2+6 2+6 2+6 2+6 227+2 1A+8 8+4 3+4 5+55
     7+2 2+59 2+3 6+2A 2+5D 12+1F 31+F 201+19BF 41+568C 44+2D 3+10C 4+F B+1 15+2E 11+1E
     3+4F 28+8 3+66 3+42 3+1 2 2+7 16+F 2+2 2+3 2+16 1E+33 F+31 3F+5 4 2+1 C+1B B+16
     1A+1C 8+2E 1D 11+4 2+9 B+4 2+28 18+2 2+7 15+16 4 4+31 2 4+1 3+4 3 2 19+2 3+A 8+2 D+5
     3+5 3+5 A+6 2+6 2+2A 2+D 7+72 1E+2BA3 D+16 5+30 2105+16D 3+69 27+6 D+4 6 2+9 2+C 2+4
     2 2+1 2+1 2+6B 22+8A 7+D9 13+3F 3+35 29+9 78 2 4 2 2 2 2+7D 25+19 7+19 C+37 3+1E 4+5
     3+5 3+5 3+2 24+B 2+19 2+12 2+1 2+E 3+D 23+7A 46+34 10C+1C 4+30 30+1F E+1D 6+25 B+1D
     3+23 5+7 2+4 2B+9D 13+23 5+23 5+27 9+33 D+A 2+E 2+6 2+1 2+A 2+E 2+6 2+1 4+33 D+136
     A+15 B+7 19+5 2+29 2+8 46+5 3 2+2B 2+1 4 3+16 B+16 A+1E 42+12 2+1 B+15 B+19 47+37
     7+1 41 10+3 2+2 2+1C 2B+1C 4+1C 24+7 2+1B 1C+35 B+15 B+12 E+11 6F+48 38+32 E+32 E+23
     27+1B A+16 FB+29 7+1 11+2 3C+1C B 9+15 2B+11 2F+14 1C+16 D+34 3A+1 3 E+2C 21+18
     1B+23 1E 3 9+22 4 D+2F F+3 16 2 24+11 2+18 14+1 40+6 2 2+3 2+E 2+9 8+2E 27+7 3+1
     3+15 2+6 2+1 2+4 4 13 D+4 1F+9 2 3 2+25 2 1A 2 2D+34 13+3 15+2 1F+2F 15+1 2 B9+2E
     2A+3 25+2F 15 3C+2A E 48+1A 26+6 BA+2B 75+3F 20+7 3 3+7 2+1 2+17 10 2 5F+7 3+26 11 2
     1D B+27 8 16 C+2D 14 13+48 C8+20 20+8 2+24 12 32+1D 71+6 2+1 2+25 16 1A+5 2+1 2+1F F
     148+12 10 2+C 2+21 7D 50+399 67+6E 12+C3 A4D+60 10+42F 12+5 1A+F9A 6+246 1ABA+1D
     6E3+238 8+1E 12+4E 12+1D 13+2F 11+3 20+14 6+12 1B1+2C D4+3F 81+4A 6 43+C 41+1 2
     1D+17F7 9+4D5 2A+9 22E8+3 2+6 2+1 2+122 10 1E+2 3 F+3 9+18B 905+6A 6+C 4+8 8+9
     1767+54 2+46 2+1 3 3+1 3+3 2+B 2 2+6 2+40 2+3 3+7 2+6 2+1B 2+3 2+4 2 4+6 2+153 3+18
     2+18 2+1E 2+18 2+1E 2+18 2+1E 2+18 2+1E 2+18 2+7 735+1E 7+5 106+3D 93+2C B+6 11
     142+1D 13+2B 1E5+1B E5+1D 3 1F0+6 2+3 2+1 2+E 2+C4 3C+43 8 4B5+3 2+1A 2+1 2 3 2+9
     2+3 2 2 7 5 2 2 2+2 2+1 2 3 2 2 2 2 2+1 2 3+3 2+6 2+3 2+3 2 2+9 2+10 6+2 2+4 2+10
     1145+A6DF 21+1039 7+DD 3+1681 F+1D30 10+26D 9A3+21D 5E3+134A 6+105F"
  | _ => none

/-- The code points with a binary property. -/
def binaryRanges (name : String) : Option (List (Nat × Nat)) :=
  (binarySteps name).map rangesOfSteps

end Multiscan.Unicode
