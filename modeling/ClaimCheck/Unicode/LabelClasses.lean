import ClaimCheck.Unicode.CodeSet

/-!
# Direction, joining and mark classes

Character classes that decide whether a label of a domain name may hold its characters in the
order in which it holds them.
-/

namespace ClaimCheck.Unicode

/-- Direction class: right-to-left letters. -/
def rightToLeft : CodeSet := .ofLines
  ["5be 1 2 2 9.1a 4.5 1cb.2a 9.1 4 3.17 4 9 3 7.e 1.18 5 f2be 1.9 1.c 1.4 1 1.1 1.1 1.9",
    "cb0.5 2 1.2b 1.1 3 2.16 1.47 8.8 30.12 1.1 5.20 4.19 5.1a 26.37 4.13 2.2e f.3 1.2 1.1c",
    "a.8 7.8 7.3f 20.24 6.b 9.35 a.15 2.1a 5.19 7.3 c.6 50.48 37.32 d.32 7.5 40.25 3.1c 8.1",
    "f0.29 3 2.1 4e.27 48.11 4.3 26.1b 14.16 d809.c4 2.8 30.43 7 4.9 4.1"]

/-- Direction class: Arabic letters. -/
def arabicLetter : CodeSet := .ofLines
  ["608 2 1 d 1.2d 22.2 1.64 f.1 7.1 a.13 2 1.1d 1d.58 b ae.a 5.1f 7 8.29 f286.1ed 12.7e 21.c",
    "73.4 1.86 e03.23 19e.5 8.8 21.2 33.15 b.8 dd17.43 4c.3c c2.3 1.1a 1.1 1 2 1.9 1.3 1 1 6 4",
    "1 1 1.2 1.1 1 2 1 1 1 1 1.1 1 2.3 1.6 1.3 1.3 1 1.9 1.10 5.2 1.4 1.10"]

/-- Direction class: Arabic numbers. -/
def arabicNumber : CodeSet := .ofLines
  ["660.9 1.1 106c3.9 126.1e"]

/-- Direction class: European numbers. -/
def europeanNumber : CodeSet := .ofLines
  ["30.9 78.1 5 636.9 1976 3.5 6.9 de86.9 3c7.1a d4d2.31 1901.9 ae5.9"]

/-- Direction class: separators of European numbers. -/
def europeanSeparator : CodeSet := .ofLines
  ["2b 1 204c.1 e.1 186 d916 338.1 a7 1"]

/-- Direction class: separators of numbers in common. -/
def commonSeparator : CodeSet := .ofLines
  ["2c 1.1 a 65 56b 1a22 14 de0b 4 b6 1.1 a"]

/-- Direction class: terminators of European numbers. -/
def europeanTerminator : CodeSet := .ofLines
  ["23.2 7c.3 a.1 4dd 79.1 5f 387.1 7 f5 107 245 99b 854.4 6b.21 6c e4 8624.1 5625 9.1 98.2",
    "da.1 3.1 1ff6.3 c31e"]

/-- Direction class: other neutrals. -/
def otherNeutral : CodeSet := .ofLines
  ["21.1 3.4 10.5 1a.5 1a.3 22 4.3 1.1 1.1 4 1.2 2.4 17 1f 1c1.1 7.d 2.d 5.8 1.10 74.1 8 5.1",
    "1 6e 193 2.1 77.1 6.1 ce a 10c.3 3f9.5 1 7d.6 2bb.3 452.9 66 29a.1 153.9 6.a 135 3.1",
    "98.21 5bd 1.2 b.2 d.2 d.2 d.1 11.13 3 d.e 1.19 1d.2 d.2 71.1 1.3 1.1 a 1.2 5.5 1 1 1 10.1",
    "4.4 5.3 2.f 29.2 4.81 2.121 45.19 1.90 19.a 15.27 62.1c1 1.152 100.273 2.1f 1.68 e5.5 e.6",
    "100.5d 22.19 1.58 c.d5 2b.3 3.18 f 5.1 5.2 5b.1 3 5a c4.23 39.1 31.f 1c.2 32.e c.3 a7.3",
    "63.1 1f 19c0.3f 5690.36 146.2 63 a.1 80.21 66 9f.3 48.3 2f2.1 51d2.11 7f 2d.2 10.1 1.5",
    "18.1e 1 2 1.8 1.1 2.2 1 2 95.1 3.4 10.5 1a.5 1a.a 7c.2 3.6 112 3e.4c 3.c 3 77e 219.6",
    "512.13 5fa.c 968.7 4.10 4ff0 6206.1 15.41 3 ba.56 384 39 39 39 39 172c.1 10e.2b 4.63 c.e",
    "2.e 1.e 1.24 15.4 1f 3a.5 3d b2.5 9a.3d7 4.10 3.c 3.76 4.5e 6.b 4 f.b 4.37 8.9 6.27 8.1d",
    "2.1 4e.153 c.d 2.c 3.8 7.2d 1.6 8.d 4.8 7.8 7.92 1.36"]

/-- Direction class: boundary neutrals. -/
def boundaryNeutral : CodeSet := .ofLines
  ["0.8 5.d 63 2d 1760 7fc.2 52.4 5.5 de8f bda0.3 14cf.7"]

/-- Direction class: marks that take no space. -/
def nonspacingMark : CodeSet := .ofLines
  ["300.6f 113.6 107.2c 1 1.1 1.1 1 48.a 30.14 10 65.6 2.5 2.1 1.3 23 1e.1a 5b.a 3a.8 9 18.3",
    "1.8 1.2 1.4 2b.2 3c.7 2a.17 1.1f 37 1 4.7 4 3.6 a.1 1d 3a 4.3 8 14.1 1a 2.1 39 4.1 4.1",
    "2.2 3 1e.1 3 b.1 39 4.4 1.1 4 14.1 16.5 1 3a 2 1.3 8 7.1 b.1 1e 3d c 32 3 37 1.2 5.2 1.3",
    "7.1 b.1 1d 3a f.1 14.1 1c.1 39.1 4.3 8 14.1 1d 48 7.2 1 5a 2.6 c.7 62 2.8 b.6 49.1 1b 1 1",
    "37.d 1.4 1.1 5.a 1.23 9 66.3 1.5 1.1 2.1 19.1 4.2 10.3 d 2.1 6 f 2bf.2 3b2.2 1d.1 1e.1",
    "1e.1 40.1 1.6 8 2.a 9 2d.2 1 75.1 22 76.2 4.1 9 6.2 db.1 2 3a 1.6 1 1 2.7 6.9 2 30.1e",
    "31.3 30 1.4 1 5 28.8 c.1 20.3 2.1 1.2 38 1.1 3 1.2 3a.7 2.1 98.2 1.c 1.6 4 6 3.1 c6.3f",
    "2d0.20 bfe.2 8d 60.1f 22a.3 6b.1 75d4.3 1.9 20.1 50.1 110 3 4 19.1 5 97.1 1a.11 d 26.7",
    "19.a 2e.2 30 2.3 2.1 27 43.5 2.1 2.1 c 8 2f 33 1.2 2.1 5.1 1 2a.1 8 ee 2 4 4f30 2e1.f",
    "10.f 3cd e2 95.4 686.2 1.1 5.3 28.2 4 a5.1 23d.3 183.1 50.2 46.a 31.3 7b 36.e 29 2.1 a.2",
    "31.3 2.1 7 3d.2 24.4 1.7 3e c.1 34.8 a.3 2 5f.2 2 1.1 6 2 9d 3.7 15.1 39.1 3 25.6 3.4",
    "c3.7 2.2 1 17 54.5 1 4.1 1.1 ee.3 6.1 1.1 1b.1 55.7 2 1.1 6a 1 2.5 1 65.2 2.3 1.4 103.8",
    "1.1 100.1 1 4 90.3 2.1 4 20.5 2.1 28.5 2.3 8 9.5 2.2 2e.c 1.1 196.6 1.5 54.15 2.6 1.1 1.1",
    "7a.5 3 1.1 1.6 1 48.1 3 1 15b.1 b.1 34.4 5 1 14fd 6.e 369a.4 3b.6 418 3f.3 51 4cb8.1",
    "1261.2d 2.16 220.2 11.7 2.6 1e.3 94.2 7bb.36 4.31 8 e 16.4 1.e 550.6 1.10 2.6 1.1 1.4 64",
    "a0.6 177 3d.3 1fc.3 3e0.6 6d.6 c17b5.ef"]

/-- Characters that join on their left only. -/
def leftJoining : CodeSet := .ofLines
  ["a872 625a 9 228 2ca"]

/-- Characters that join on their right only. -/
def rightJoining : CodeSet := .ofLines
  ["622.3 1 1 5.3 15 28.2 1.2 10.11 26 2.8 1 1 2.1 1 18.1 20 4.4 4 9 1 1 2 1d b.2 f.1 4 1.1",
    "3.1 c6 5.1 1 a 1.2 e 1.1 5.12 b 1b.2 1 2.1 6 1020b 1 1.1 3.4 a 3 2 a 91 1.2 3 2 1.1 1",
    "17.3 175 19f 70 20 1f.1 3e.2 2.1 2 4.1 5"]

/-- Characters that join on both sides. -/
def dualJoining : CodeSet := .ofLines
  ["620 5 1 1.4 4.c 1.6 1.1 23.1 8.f 12.25 1.1 9 1 1.1 28.2 2 12.2 5.3 1.8 1 1 1.1 1f.a 3.e",
    "2.3 1 2.2 2.5 4a.20 56.4 2 1.9 1 a 1.3 2 1d 2.4 1 10.9 5.1 2.5 1.e f3e 18.58 e.21 1",
    "8f95.31 624e.4 e.3 1.4 1.2 a.3 91 1 3.2 1.1 1 2 1c.1 152.20 1 19f.1 1.1 68.2 1.10 c.2",
    "1c.3 2.b 2e 1.1 4 2.1 1.1 1 2 5 d935.43"]

/-- Characters that joining looks through. -/
def transparentJoining : CodeSet := .ofLines
  ["ad 252.6f 113.6 107.2c 1 1.1 1.1 1 48.a 1 2e.14 10 65.6 2.5 2.1 1.3 21 1 1e.1a 5b.a 3a.8",
    "9 18.3 1.8 1.2 1.4 2b.2 3b.8 2a.17 1.1f 37 1 4.7 4 3.6 a.1 1d 3a 4.3 8 14.1 1a 2.1 39 4.1",
    "4.1 2.2 3 1e.1 3 b.1 39 4.4 1.1 4 14.1 16.5 1 3a 2 1.3 8 7.1 b.1 1e 3d c 32 3 37 1.2 5.2",
    "1.3 7.1 b.1 1d 3a 2 6 5.1 14.1 1c.1 39.1 4.3 8 14.1 1d 48 7.2 1 5a 2.6 c.7 62 2.8 b.6",
    "49.1 1b 1 1 37.d 1.4 1.1 5.a 1.23 9 66.3 1.5 1.1 2.1 19.1 4.2 10.3 d 2.1 6 f 2bf.2 3b2.2",
    "1d.1 1e.1 1e.1 40.1 1.6 8 2.a 9 2d.2 1 75.1 22 76.2 4.1 9 6.2 db.1 2 3a 1.6 1 1 2.7 6.9 2",
    "30.2d 2.b 14.3 30 1.4 1 5 28.8 c.1 20.3 2.1 1.2 38 1.1 3 1.2 3a.7 2.1 98.2 1.c 1.6 4 6",
    "3.1 c6.3f 20b 2.1 1a.4 31.4 5.5 60.20 bfe.2 8d 60.1f 22a.3 6b.1 75d4.3 1.9 20.1 50.1 110",
    "3 4 19.1 5 97.1 1a.11 d 26.7 19.a 2e.2 30 2.3 2.1 27 43.5 2.1 2.1 c 8 2f 33 1.2 2.1 5.1 1",
    "2a.1 8 ee 2 4 4f30 2e1.f 10.f cf f9.2 201 e2 95.4 686.2 1.1 5.3 28.2 4 a5.1 23d.3 41.4",
    "13d.1 4d.5 46.a 31.3 7b 36.e 29 2.1 a.2 31.3 2.1 7 3d.2 24.4 1.7 3e c.1 34.8 a.3 2 5f.2 2",
    "1.1 6 2 9d 3.7 15.1 39.1 3 25.6 3.4 46.5 d 1 1 e.1 55.7 2.2 1 17 54.5 1 4.1 1.1 ee.3 6.1",
    "1.1 1b.1 55.7 2 1.1 6a 1 2.5 1 65 1 2.3 1.4 103.8 1.1 100.1 1 4 90.3 2.1 4 20.9 28.5 2.3",
    "8 9.5 2.2 2e.c 1.1 c6 1.2 1 c9.6 1.5 1 52.15 2.6 1.1 1.1 7a.5 3 1.1 1.6 1 48.1 3 1 15b.1",
    "b.1 34.4 5 1 17 14d5.10 6.e 2cc8.b 3.2 9c0.4 3b.6 418 3f.3 51 4cb8.1 1.3 125c.2d 2.16",
    "220.2 9.f 2.6 1e.3 94.2 7bb.36 4.31 8 e 16.4 1.e 550.6 1.10 2.6 1.1 1.4 64 a0.6 177 3d.3",
    "1fc.3 fe.1 f3 2 7.1 5 1da.6 6d.7 c16b5 1e.5f 80.ef"]

/-- Combining marks. -/
def combiningMarks : CodeSet := .ofLines
  ["300.6f 113.6 107.2c 1 1.1 1.1 1 48.a 30.14 10 65.6 2.5 2.1 1.3 23 1e.1a 5b.a 3a.8 9 18.3",
    "1.8 1.2 1.4 2b.2 3c.7 2a.17 1.20 36.2 1.11 1.6 a.1 1d.2 38 1.6 2.1 2.2 9 a.1 1a 2.2 38",
    "1.4 4.1 2.2 3 1e.1 3 b.2 38 1.7 1.2 1.2 14.1 16.5 1.2 38 1.6 2.1 2.2 7.2 a.1 1e 3b.4 3.2",
    "1.3 9 28.4 37 1.6 1.2 1.3 7.1 b.1 1d.2 38 1.6 1.2 1.3 7.1 b.1 f c.3 37.1 1.6 1.2 1.3 9",
    "a.1 1d.2 46 4.5 1 1.7 12.1 3d 2.6 c.7 62 2.8 b.6 49.1 1b 1 1 4.1 31.13 1.1 5.a 1.23 9",
    "64.13 17.3 4.2 1.2 2.6 3.3 d.b 1 a.3 2bf.2 3b2.3 1c.2 1d.1 1e.1 40.1f 9 2d.2 1 75.1 22",
    "76.b 4.b db.4 39.9 1.1c 2 30.1e 31.4 2f.10 26.8 c.2 1e.c 38.d 30.13 98.2 1.14 4 6 2.2",
    "c6.3f 2d0.20 bfe.2 8d 60.1f 22a.5 69.1 75d4.3 1.9 20.1 50.1 110 3 4 17.4 4 53.1 32.11",
    "1a.11 d 26.7 19.c 2c.3 2f.d 24 43.d c 8.1 2d.2 32 1.2 2.1 5.1 1 29.4 5.1 ec.7 1.1 4f30",
    "2e1.f 10.f 3cd e2 95.4 686.2 1.1 5.3 28.2 4 a5.1 23d.3 183.1 50.2 46.a 31.3 7a.2 35.e 29",
    "2.1 a.3 2d.a 7 3d.2 24.d 10.1 2c c.2 30.d 8.3 1.1 5c.b 6 2 9d.b 15.3 37.1 1.6 2.1 2.2 9",
    "a.1 2.6 3.4 c0.11 17 51.13 eb.6 2.8 1b.1 52.10 6a.c 65.e 100.e f5.5 1.1 2.3 1 1.1 8d.6",
    "2.6 3 1c.9 28.6 1.3 8 9.a 2e.f 195.7 1.7 52.15 1.d 7a.5 3 1.1 1.6 1 42.4 1.1 1.4 15b.3",
    "9.1 1 30.6 3.4 14fd 6.e 369a.4 3b.6 418 1.36 7.3 51 b.1 4cab.1 1261.2d 2.16 21e.4 3.5 8.7",
    "2.6 1e.3 94.2 7bb.36 4.31 8 e 16.4 1.e 550.6 1.10 2.6 1.1 1.4 64 a0.6 177 3d.3 1fc.3",
    "3e0.6 6d.6 c17b5.ef"]

end ClaimCheck.Unicode
