import TemplateBuild.Encoding.Index

/-!
# Code pages

The encodings that spell every character with one byte.  The lower half is ASCII; the upper
half of each page is an index whose pointers are the bytes from 0x80 up.
-/

set_option autoImplicit false

namespace TemplateBuild.Encoding

def ibm866Upper : Index :=
  [⟨0x80, 0x410, 48⟩, ⟨0xB0, 0x2591, 3⟩, ⟨0xB3, 0x2502, 1⟩, ⟨0xB4, 0x2524, 1⟩, ⟨0xB5, 0x2561, 2⟩,
   ⟨0xB7, 0x2556, 1⟩, ⟨0xB8, 0x2555, 1⟩, ⟨0xB9, 0x2563, 1⟩, ⟨0xBA, 0x2551, 1⟩, ⟨0xBB, 0x2557, 1⟩,
   ⟨0xBC, 0x255D, 1⟩, ⟨0xBD, 0x255C, 1⟩, ⟨0xBE, 0x255B, 1⟩, ⟨0xBF, 0x2510, 1⟩, ⟨0xC0, 0x2514, 1⟩,
   ⟨0xC1, 0x2534, 1⟩, ⟨0xC2, 0x252C, 1⟩, ⟨0xC3, 0x251C, 1⟩, ⟨0xC4, 0x2500, 1⟩, ⟨0xC5, 0x253C, 1⟩,
   ⟨0xC6, 0x255E, 2⟩, ⟨0xC8, 0x255A, 1⟩, ⟨0xC9, 0x2554, 1⟩, ⟨0xCA, 0x2569, 1⟩, ⟨0xCB, 0x2566, 1⟩,
   ⟨0xCC, 0x2560, 1⟩, ⟨0xCD, 0x2550, 1⟩, ⟨0xCE, 0x256C, 1⟩, ⟨0xCF, 0x2567, 2⟩, ⟨0xD1, 0x2564, 2⟩,
   ⟨0xD3, 0x2559, 1⟩, ⟨0xD4, 0x2558, 1⟩, ⟨0xD5, 0x2552, 2⟩, ⟨0xD7, 0x256B, 1⟩, ⟨0xD8, 0x256A, 1⟩,
   ⟨0xD9, 0x2518, 1⟩, ⟨0xDA, 0x250C, 1⟩, ⟨0xDB, 0x2588, 1⟩, ⟨0xDC, 0x2584, 1⟩, ⟨0xDD, 0x258C, 1⟩,
   ⟨0xDE, 0x2590, 1⟩, ⟨0xDF, 0x2580, 1⟩, ⟨0xE0, 0x440, 16⟩, ⟨0xF0, 0x401, 1⟩, ⟨0xF1, 0x451, 1⟩,
   ⟨0xF2, 0x404, 1⟩, ⟨0xF3, 0x454, 1⟩, ⟨0xF4, 0x407, 1⟩, ⟨0xF5, 0x457, 1⟩, ⟨0xF6, 0x40E, 1⟩,
   ⟨0xF7, 0x45E, 1⟩, ⟨0xF8, 0xB0, 1⟩, ⟨0xF9, 0x2219, 1⟩, ⟨0xFA, 0xB7, 1⟩, ⟨0xFB, 0x221A, 1⟩,
   ⟨0xFC, 0x2116, 1⟩, ⟨0xFD, 0xA4, 1⟩, ⟨0xFE, 0x25A0, 1⟩, ⟨0xFF, 0xA0, 1⟩]

def iso8859Part2Upper : Index :=
  [⟨0x80, 0x80, 33⟩, ⟨0xA1, 0x104, 1⟩, ⟨0xA2, 0x2D8, 1⟩, ⟨0xA3, 0x141, 1⟩, ⟨0xA4, 0xA4, 1⟩,
   ⟨0xA5, 0x13D, 1⟩, ⟨0xA6, 0x15A, 1⟩, ⟨0xA7, 0xA7, 2⟩, ⟨0xA9, 0x160, 1⟩, ⟨0xAA, 0x15E, 1⟩,
   ⟨0xAB, 0x164, 1⟩, ⟨0xAC, 0x179, 1⟩, ⟨0xAD, 0xAD, 1⟩, ⟨0xAE, 0x17D, 1⟩, ⟨0xAF, 0x17B, 1⟩,
   ⟨0xB0, 0xB0, 1⟩, ⟨0xB1, 0x105, 1⟩, ⟨0xB2, 0x2DB, 1⟩, ⟨0xB3, 0x142, 1⟩, ⟨0xB4, 0xB4, 1⟩,
   ⟨0xB5, 0x13E, 1⟩, ⟨0xB6, 0x15B, 1⟩, ⟨0xB7, 0x2C7, 1⟩, ⟨0xB8, 0xB8, 1⟩, ⟨0xB9, 0x161, 1⟩,
   ⟨0xBA, 0x15F, 1⟩, ⟨0xBB, 0x165, 1⟩, ⟨0xBC, 0x17A, 1⟩, ⟨0xBD, 0x2DD, 1⟩, ⟨0xBE, 0x17E, 1⟩,
   ⟨0xBF, 0x17C, 1⟩, ⟨0xC0, 0x154, 1⟩, ⟨0xC1, 0xC1, 2⟩, ⟨0xC3, 0x102, 1⟩, ⟨0xC4, 0xC4, 1⟩,
   ⟨0xC5, 0x139, 1⟩, ⟨0xC6, 0x106, 1⟩, ⟨0xC7, 0xC7, 1⟩, ⟨0xC8, 0x10C, 1⟩, ⟨0xC9, 0xC9, 1⟩,
   ⟨0xCA, 0x118, 1⟩, ⟨0xCB, 0xCB, 1⟩, ⟨0xCC, 0x11A, 1⟩, ⟨0xCD, 0xCD, 2⟩, ⟨0xCF, 0x10E, 1⟩,
   ⟨0xD0, 0x110, 1⟩, ⟨0xD1, 0x143, 1⟩, ⟨0xD2, 0x147, 1⟩, ⟨0xD3, 0xD3, 2⟩, ⟨0xD5, 0x150, 1⟩,
   ⟨0xD6, 0xD6, 2⟩, ⟨0xD8, 0x158, 1⟩, ⟨0xD9, 0x16E, 1⟩, ⟨0xDA, 0xDA, 1⟩, ⟨0xDB, 0x170, 1⟩,
   ⟨0xDC, 0xDC, 2⟩, ⟨0xDE, 0x162, 1⟩, ⟨0xDF, 0xDF, 1⟩, ⟨0xE0, 0x155, 1⟩, ⟨0xE1, 0xE1, 2⟩,
   ⟨0xE3, 0x103, 1⟩, ⟨0xE4, 0xE4, 1⟩, ⟨0xE5, 0x13A, 1⟩, ⟨0xE6, 0x107, 1⟩, ⟨0xE7, 0xE7, 1⟩,
   ⟨0xE8, 0x10D, 1⟩, ⟨0xE9, 0xE9, 1⟩, ⟨0xEA, 0x119, 1⟩, ⟨0xEB, 0xEB, 1⟩, ⟨0xEC, 0x11B, 1⟩,
   ⟨0xED, 0xED, 2⟩, ⟨0xEF, 0x10F, 1⟩, ⟨0xF0, 0x111, 1⟩, ⟨0xF1, 0x144, 1⟩, ⟨0xF2, 0x148, 1⟩,
   ⟨0xF3, 0xF3, 2⟩, ⟨0xF5, 0x151, 1⟩, ⟨0xF6, 0xF6, 2⟩, ⟨0xF8, 0x159, 1⟩, ⟨0xF9, 0x16F, 1⟩,
   ⟨0xFA, 0xFA, 1⟩, ⟨0xFB, 0x171, 1⟩, ⟨0xFC, 0xFC, 2⟩, ⟨0xFE, 0x163, 1⟩, ⟨0xFF, 0x2D9, 1⟩]

def iso8859Part3Upper : Index :=
  [⟨0x80, 0x80, 33⟩, ⟨0xA1, 0x126, 1⟩, ⟨0xA2, 0x2D8, 1⟩, ⟨0xA3, 0xA3, 2⟩, ⟨0xA6, 0x124, 1⟩,
   ⟨0xA7, 0xA7, 2⟩, ⟨0xA9, 0x130, 1⟩, ⟨0xAA, 0x15E, 1⟩, ⟨0xAB, 0x11E, 1⟩, ⟨0xAC, 0x134, 1⟩,
   ⟨0xAD, 0xAD, 1⟩, ⟨0xAF, 0x17B, 1⟩, ⟨0xB0, 0xB0, 1⟩, ⟨0xB1, 0x127, 1⟩, ⟨0xB2, 0xB2, 4⟩,
   ⟨0xB6, 0x125, 1⟩, ⟨0xB7, 0xB7, 2⟩, ⟨0xB9, 0x131, 1⟩, ⟨0xBA, 0x15F, 1⟩, ⟨0xBB, 0x11F, 1⟩,
   ⟨0xBC, 0x135, 1⟩, ⟨0xBD, 0xBD, 1⟩, ⟨0xBF, 0x17C, 1⟩, ⟨0xC0, 0xC0, 3⟩, ⟨0xC4, 0xC4, 1⟩,
   ⟨0xC5, 0x10A, 1⟩, ⟨0xC6, 0x108, 1⟩, ⟨0xC7, 0xC7, 9⟩, ⟨0xD1, 0xD1, 4⟩, ⟨0xD5, 0x120, 1⟩,
   ⟨0xD6, 0xD6, 2⟩, ⟨0xD8, 0x11C, 1⟩, ⟨0xD9, 0xD9, 4⟩, ⟨0xDD, 0x16C, 1⟩, ⟨0xDE, 0x15C, 1⟩,
   ⟨0xDF, 0xDF, 4⟩, ⟨0xE4, 0xE4, 1⟩, ⟨0xE5, 0x10B, 1⟩, ⟨0xE6, 0x109, 1⟩, ⟨0xE7, 0xE7, 9⟩,
   ⟨0xF1, 0xF1, 4⟩, ⟨0xF5, 0x121, 1⟩, ⟨0xF6, 0xF6, 2⟩, ⟨0xF8, 0x11D, 1⟩, ⟨0xF9, 0xF9, 4⟩,
   ⟨0xFD, 0x16D, 1⟩, ⟨0xFE, 0x15D, 1⟩, ⟨0xFF, 0x2D9, 1⟩]

def iso8859Part4Upper : Index :=
  [⟨0x80, 0x80, 33⟩, ⟨0xA1, 0x104, 1⟩, ⟨0xA2, 0x138, 1⟩, ⟨0xA3, 0x156, 1⟩, ⟨0xA4, 0xA4, 1⟩,
   ⟨0xA5, 0x128, 1⟩, ⟨0xA6, 0x13B, 1⟩, ⟨0xA7, 0xA7, 2⟩, ⟨0xA9, 0x160, 1⟩, ⟨0xAA, 0x112, 1⟩,
   ⟨0xAB, 0x122, 1⟩, ⟨0xAC, 0x166, 1⟩, ⟨0xAD, 0xAD, 1⟩, ⟨0xAE, 0x17D, 1⟩, ⟨0xAF, 0xAF, 2⟩,
   ⟨0xB1, 0x105, 1⟩, ⟨0xB2, 0x2DB, 1⟩, ⟨0xB3, 0x157, 1⟩, ⟨0xB4, 0xB4, 1⟩, ⟨0xB5, 0x129, 1⟩,
   ⟨0xB6, 0x13C, 1⟩, ⟨0xB7, 0x2C7, 1⟩, ⟨0xB8, 0xB8, 1⟩, ⟨0xB9, 0x161, 1⟩, ⟨0xBA, 0x113, 1⟩,
   ⟨0xBB, 0x123, 1⟩, ⟨0xBC, 0x167, 1⟩, ⟨0xBD, 0x14A, 1⟩, ⟨0xBE, 0x17E, 1⟩, ⟨0xBF, 0x14B, 1⟩,
   ⟨0xC0, 0x100, 1⟩, ⟨0xC1, 0xC1, 6⟩, ⟨0xC7, 0x12E, 1⟩, ⟨0xC8, 0x10C, 1⟩, ⟨0xC9, 0xC9, 1⟩,
   ⟨0xCA, 0x118, 1⟩, ⟨0xCB, 0xCB, 1⟩, ⟨0xCC, 0x116, 1⟩, ⟨0xCD, 0xCD, 2⟩, ⟨0xCF, 0x12A, 1⟩,
   ⟨0xD0, 0x110, 1⟩, ⟨0xD1, 0x145, 1⟩, ⟨0xD2, 0x14C, 1⟩, ⟨0xD3, 0x136, 1⟩, ⟨0xD4, 0xD4, 5⟩,
   ⟨0xD9, 0x172, 1⟩, ⟨0xDA, 0xDA, 3⟩, ⟨0xDD, 0x168, 1⟩, ⟨0xDE, 0x16A, 1⟩, ⟨0xDF, 0xDF, 1⟩,
   ⟨0xE0, 0x101, 1⟩, ⟨0xE1, 0xE1, 6⟩, ⟨0xE7, 0x12F, 1⟩, ⟨0xE8, 0x10D, 1⟩, ⟨0xE9, 0xE9, 1⟩,
   ⟨0xEA, 0x119, 1⟩, ⟨0xEB, 0xEB, 1⟩, ⟨0xEC, 0x117, 1⟩, ⟨0xED, 0xED, 2⟩, ⟨0xEF, 0x12B, 1⟩,
   ⟨0xF0, 0x111, 1⟩, ⟨0xF1, 0x146, 1⟩, ⟨0xF2, 0x14D, 1⟩, ⟨0xF3, 0x137, 1⟩, ⟨0xF4, 0xF4, 5⟩,
   ⟨0xF9, 0x173, 1⟩, ⟨0xFA, 0xFA, 3⟩, ⟨0xFD, 0x169, 1⟩, ⟨0xFE, 0x16B, 1⟩, ⟨0xFF, 0x2D9, 1⟩]

def iso8859Part5Upper : Index :=
  [⟨0x80, 0x80, 33⟩, ⟨0xA1, 0x401, 12⟩, ⟨0xAD, 0xAD, 1⟩, ⟨0xAE, 0x40E, 66⟩, ⟨0xF0, 0x2116, 1⟩,
   ⟨0xF1, 0x451, 12⟩, ⟨0xFD, 0xA7, 1⟩, ⟨0xFE, 0x45E, 2⟩]

def iso8859Part6Upper : Index :=
  [⟨0x80, 0x80, 33⟩, ⟨0xA4, 0xA4, 1⟩, ⟨0xAC, 0x60C, 1⟩, ⟨0xAD, 0xAD, 1⟩, ⟨0xBB, 0x61B, 1⟩,
   ⟨0xBF, 0x61F, 1⟩, ⟨0xC1, 0x621, 26⟩, ⟨0xE0, 0x640, 19⟩]

def iso8859Part7Upper : Index :=
  [⟨0x80, 0x80, 33⟩, ⟨0xA1, 0x2018, 2⟩, ⟨0xA3, 0xA3, 1⟩, ⟨0xA4, 0x20AC, 1⟩, ⟨0xA5, 0x20AF, 1⟩,
   ⟨0xA6, 0xA6, 4⟩, ⟨0xAA, 0x37A, 1⟩, ⟨0xAB, 0xAB, 3⟩, ⟨0xAF, 0x2015, 1⟩, ⟨0xB0, 0xB0, 4⟩,
   ⟨0xB4, 0x384, 3⟩, ⟨0xB7, 0xB7, 1⟩, ⟨0xB8, 0x388, 3⟩, ⟨0xBB, 0xBB, 1⟩, ⟨0xBC, 0x38C, 1⟩,
   ⟨0xBD, 0xBD, 1⟩, ⟨0xBE, 0x38E, 20⟩, ⟨0xD3, 0x3A3, 44⟩]

def iso8859Part8Upper : Index :=
  [⟨0x80, 0x80, 33⟩, ⟨0xA2, 0xA2, 8⟩, ⟨0xAA, 0xD7, 1⟩, ⟨0xAB, 0xAB, 15⟩, ⟨0xBA, 0xF7, 1⟩,
   ⟨0xBB, 0xBB, 4⟩, ⟨0xDF, 0x2017, 1⟩, ⟨0xE0, 0x5D0, 27⟩, ⟨0xFD, 0x200E, 2⟩]

def iso8859Part10Upper : Index :=
  [⟨0x80, 0x80, 33⟩, ⟨0xA1, 0x104, 1⟩, ⟨0xA2, 0x112, 1⟩, ⟨0xA3, 0x122, 1⟩, ⟨0xA4, 0x12A, 1⟩,
   ⟨0xA5, 0x128, 1⟩, ⟨0xA6, 0x136, 1⟩, ⟨0xA7, 0xA7, 1⟩, ⟨0xA8, 0x13B, 1⟩, ⟨0xA9, 0x110, 1⟩,
   ⟨0xAA, 0x160, 1⟩, ⟨0xAB, 0x166, 1⟩, ⟨0xAC, 0x17D, 1⟩, ⟨0xAD, 0xAD, 1⟩, ⟨0xAE, 0x16A, 1⟩,
   ⟨0xAF, 0x14A, 1⟩, ⟨0xB0, 0xB0, 1⟩, ⟨0xB1, 0x105, 1⟩, ⟨0xB2, 0x113, 1⟩, ⟨0xB3, 0x123, 1⟩,
   ⟨0xB4, 0x12B, 1⟩, ⟨0xB5, 0x129, 1⟩, ⟨0xB6, 0x137, 1⟩, ⟨0xB7, 0xB7, 1⟩, ⟨0xB8, 0x13C, 1⟩,
   ⟨0xB9, 0x111, 1⟩, ⟨0xBA, 0x161, 1⟩, ⟨0xBB, 0x167, 1⟩, ⟨0xBC, 0x17E, 1⟩, ⟨0xBD, 0x2015, 1⟩,
   ⟨0xBE, 0x16B, 1⟩, ⟨0xBF, 0x14B, 1⟩, ⟨0xC0, 0x100, 1⟩, ⟨0xC1, 0xC1, 6⟩, ⟨0xC7, 0x12E, 1⟩,
   ⟨0xC8, 0x10C, 1⟩, ⟨0xC9, 0xC9, 1⟩, ⟨0xCA, 0x118, 1⟩, ⟨0xCB, 0xCB, 1⟩, ⟨0xCC, 0x116, 1⟩,
   ⟨0xCD, 0xCD, 4⟩, ⟨0xD1, 0x145, 1⟩, ⟨0xD2, 0x14C, 1⟩, ⟨0xD3, 0xD3, 4⟩, ⟨0xD7, 0x168, 1⟩,
   ⟨0xD8, 0xD8, 1⟩, ⟨0xD9, 0x172, 1⟩, ⟨0xDA, 0xDA, 6⟩, ⟨0xE0, 0x101, 1⟩, ⟨0xE1, 0xE1, 6⟩,
   ⟨0xE7, 0x12F, 1⟩, ⟨0xE8, 0x10D, 1⟩, ⟨0xE9, 0xE9, 1⟩, ⟨0xEA, 0x119, 1⟩, ⟨0xEB, 0xEB, 1⟩,
   ⟨0xEC, 0x117, 1⟩, ⟨0xED, 0xED, 4⟩, ⟨0xF1, 0x146, 1⟩, ⟨0xF2, 0x14D, 1⟩, ⟨0xF3, 0xF3, 4⟩,
   ⟨0xF7, 0x169, 1⟩, ⟨0xF8, 0xF8, 1⟩, ⟨0xF9, 0x173, 1⟩, ⟨0xFA, 0xFA, 5⟩, ⟨0xFF, 0x138, 1⟩]

def iso8859Part13Upper : Index :=
  [⟨0x80, 0x80, 33⟩, ⟨0xA1, 0x201D, 1⟩, ⟨0xA2, 0xA2, 3⟩, ⟨0xA5, 0x201E, 1⟩, ⟨0xA6, 0xA6, 2⟩,
   ⟨0xA8, 0xD8, 1⟩, ⟨0xA9, 0xA9, 1⟩, ⟨0xAA, 0x156, 1⟩, ⟨0xAB, 0xAB, 4⟩, ⟨0xAF, 0xC6, 1⟩,
   ⟨0xB0, 0xB0, 4⟩, ⟨0xB4, 0x201C, 1⟩, ⟨0xB5, 0xB5, 3⟩, ⟨0xB8, 0xF8, 1⟩, ⟨0xB9, 0xB9, 1⟩,
   ⟨0xBA, 0x157, 1⟩, ⟨0xBB, 0xBB, 4⟩, ⟨0xBF, 0xE6, 1⟩, ⟨0xC0, 0x104, 1⟩, ⟨0xC1, 0x12E, 1⟩,
   ⟨0xC2, 0x100, 1⟩, ⟨0xC3, 0x106, 1⟩, ⟨0xC4, 0xC4, 2⟩, ⟨0xC6, 0x118, 1⟩, ⟨0xC7, 0x112, 1⟩,
   ⟨0xC8, 0x10C, 1⟩, ⟨0xC9, 0xC9, 1⟩, ⟨0xCA, 0x179, 1⟩, ⟨0xCB, 0x116, 1⟩, ⟨0xCC, 0x122, 1⟩,
   ⟨0xCD, 0x136, 1⟩, ⟨0xCE, 0x12A, 1⟩, ⟨0xCF, 0x13B, 1⟩, ⟨0xD0, 0x160, 1⟩, ⟨0xD1, 0x143, 1⟩,
   ⟨0xD2, 0x145, 1⟩, ⟨0xD3, 0xD3, 1⟩, ⟨0xD4, 0x14C, 1⟩, ⟨0xD5, 0xD5, 3⟩, ⟨0xD8, 0x172, 1⟩,
   ⟨0xD9, 0x141, 1⟩, ⟨0xDA, 0x15A, 1⟩, ⟨0xDB, 0x16A, 1⟩, ⟨0xDC, 0xDC, 1⟩, ⟨0xDD, 0x17B, 1⟩,
   ⟨0xDE, 0x17D, 1⟩, ⟨0xDF, 0xDF, 1⟩, ⟨0xE0, 0x105, 1⟩, ⟨0xE1, 0x12F, 1⟩, ⟨0xE2, 0x101, 1⟩,
   ⟨0xE3, 0x107, 1⟩, ⟨0xE4, 0xE4, 2⟩, ⟨0xE6, 0x119, 1⟩, ⟨0xE7, 0x113, 1⟩, ⟨0xE8, 0x10D, 1⟩,
   ⟨0xE9, 0xE9, 1⟩, ⟨0xEA, 0x17A, 1⟩, ⟨0xEB, 0x117, 1⟩, ⟨0xEC, 0x123, 1⟩, ⟨0xED, 0x137, 1⟩,
   ⟨0xEE, 0x12B, 1⟩, ⟨0xEF, 0x13C, 1⟩, ⟨0xF0, 0x161, 1⟩, ⟨0xF1, 0x144, 1⟩, ⟨0xF2, 0x146, 1⟩,
   ⟨0xF3, 0xF3, 1⟩, ⟨0xF4, 0x14D, 1⟩, ⟨0xF5, 0xF5, 3⟩, ⟨0xF8, 0x173, 1⟩, ⟨0xF9, 0x142, 1⟩,
   ⟨0xFA, 0x15B, 1⟩, ⟨0xFB, 0x16B, 1⟩, ⟨0xFC, 0xFC, 1⟩, ⟨0xFD, 0x17C, 1⟩, ⟨0xFE, 0x17E, 1⟩,
   ⟨0xFF, 0x2019, 1⟩]

def iso8859Part14Upper : Index :=
  [⟨0x80, 0x80, 33⟩, ⟨0xA1, 0x1E02, 2⟩, ⟨0xA3, 0xA3, 1⟩, ⟨0xA4, 0x10A, 2⟩, ⟨0xA6, 0x1E0A, 1⟩,
   ⟨0xA7, 0xA7, 1⟩, ⟨0xA8, 0x1E80, 1⟩, ⟨0xA9, 0xA9, 1⟩, ⟨0xAA, 0x1E82, 1⟩, ⟨0xAB, 0x1E0B, 1⟩,
   ⟨0xAC, 0x1EF2, 1⟩, ⟨0xAD, 0xAD, 2⟩, ⟨0xAF, 0x178, 1⟩, ⟨0xB0, 0x1E1E, 2⟩, ⟨0xB2, 0x120, 2⟩,
   ⟨0xB4, 0x1E40, 2⟩, ⟨0xB6, 0xB6, 1⟩, ⟨0xB7, 0x1E56, 1⟩, ⟨0xB8, 0x1E81, 1⟩, ⟨0xB9, 0x1E57, 1⟩,
   ⟨0xBA, 0x1E83, 1⟩, ⟨0xBB, 0x1E60, 1⟩, ⟨0xBC, 0x1EF3, 1⟩, ⟨0xBD, 0x1E84, 2⟩, ⟨0xBF, 0x1E61, 1⟩,
   ⟨0xC0, 0xC0, 16⟩, ⟨0xD0, 0x174, 1⟩, ⟨0xD1, 0xD1, 6⟩, ⟨0xD7, 0x1E6A, 1⟩, ⟨0xD8, 0xD8, 6⟩,
   ⟨0xDE, 0x176, 1⟩, ⟨0xDF, 0xDF, 17⟩, ⟨0xF0, 0x175, 1⟩, ⟨0xF1, 0xF1, 6⟩, ⟨0xF7, 0x1E6B, 1⟩,
   ⟨0xF8, 0xF8, 6⟩, ⟨0xFE, 0x177, 1⟩, ⟨0xFF, 0xFF, 1⟩]

def iso8859Part15Upper : Index :=
  [⟨0x80, 0x80, 36⟩, ⟨0xA4, 0x20AC, 1⟩, ⟨0xA5, 0xA5, 1⟩, ⟨0xA6, 0x160, 1⟩, ⟨0xA7, 0xA7, 1⟩,
   ⟨0xA8, 0x161, 1⟩, ⟨0xA9, 0xA9, 11⟩, ⟨0xB4, 0x17D, 1⟩, ⟨0xB5, 0xB5, 3⟩, ⟨0xB8, 0x17E, 1⟩,
   ⟨0xB9, 0xB9, 3⟩, ⟨0xBC, 0x152, 2⟩, ⟨0xBE, 0x178, 1⟩, ⟨0xBF, 0xBF, 65⟩]

def iso8859Part16Upper : Index :=
  [⟨0x80, 0x80, 33⟩, ⟨0xA1, 0x104, 2⟩, ⟨0xA3, 0x141, 1⟩, ⟨0xA4, 0x20AC, 1⟩, ⟨0xA5, 0x201E, 1⟩,
   ⟨0xA6, 0x160, 1⟩, ⟨0xA7, 0xA7, 1⟩, ⟨0xA8, 0x161, 1⟩, ⟨0xA9, 0xA9, 1⟩, ⟨0xAA, 0x218, 1⟩,
   ⟨0xAB, 0xAB, 1⟩, ⟨0xAC, 0x179, 1⟩, ⟨0xAD, 0xAD, 1⟩, ⟨0xAE, 0x17A, 2⟩, ⟨0xB0, 0xB0, 2⟩,
   ⟨0xB2, 0x10C, 1⟩, ⟨0xB3, 0x142, 1⟩, ⟨0xB4, 0x17D, 1⟩, ⟨0xB5, 0x201D, 1⟩, ⟨0xB6, 0xB6, 2⟩,
   ⟨0xB8, 0x17E, 1⟩, ⟨0xB9, 0x10D, 1⟩, ⟨0xBA, 0x219, 1⟩, ⟨0xBB, 0xBB, 1⟩, ⟨0xBC, 0x152, 2⟩,
   ⟨0xBE, 0x178, 1⟩, ⟨0xBF, 0x17C, 1⟩, ⟨0xC0, 0xC0, 3⟩, ⟨0xC3, 0x102, 1⟩, ⟨0xC4, 0xC4, 1⟩,
   ⟨0xC5, 0x106, 1⟩, ⟨0xC6, 0xC6, 10⟩, ⟨0xD0, 0x110, 1⟩, ⟨0xD1, 0x143, 1⟩, ⟨0xD2, 0xD2, 3⟩,
   ⟨0xD5, 0x150, 1⟩, ⟨0xD6, 0xD6, 1⟩, ⟨0xD7, 0x15A, 1⟩, ⟨0xD8, 0x170, 1⟩, ⟨0xD9, 0xD9, 4⟩,
   ⟨0xDD, 0x118, 1⟩, ⟨0xDE, 0x21A, 1⟩, ⟨0xDF, 0xDF, 4⟩, ⟨0xE3, 0x103, 1⟩, ⟨0xE4, 0xE4, 1⟩,
   ⟨0xE5, 0x107, 1⟩, ⟨0xE6, 0xE6, 10⟩, ⟨0xF0, 0x111, 1⟩, ⟨0xF1, 0x144, 1⟩, ⟨0xF2, 0xF2, 3⟩,
   ⟨0xF5, 0x151, 1⟩, ⟨0xF6, 0xF6, 1⟩, ⟨0xF7, 0x15B, 1⟩, ⟨0xF8, 0x171, 1⟩, ⟨0xF9, 0xF9, 4⟩,
   ⟨0xFD, 0x119, 1⟩, ⟨0xFE, 0x21B, 1⟩, ⟨0xFF, 0xFF, 1⟩]

def koi8RUpper : Index :=
  [⟨0x80, 0x2500, 1⟩, ⟨0x81, 0x2502, 1⟩, ⟨0x82, 0x250C, 1⟩, ⟨0x83, 0x2510, 1⟩, ⟨0x84, 0x2514, 1⟩,
   ⟨0x85, 0x2518, 1⟩, ⟨0x86, 0x251C, 1⟩, ⟨0x87, 0x2524, 1⟩, ⟨0x88, 0x252C, 1⟩, ⟨0x89, 0x2534, 1⟩,
   ⟨0x8A, 0x253C, 1⟩, ⟨0x8B, 0x2580, 1⟩, ⟨0x8C, 0x2584, 1⟩, ⟨0x8D, 0x2588, 1⟩, ⟨0x8E, 0x258C, 1⟩,
   ⟨0x8F, 0x2590, 4⟩, ⟨0x93, 0x2320, 1⟩, ⟨0x94, 0x25A0, 1⟩, ⟨0x95, 0x2219, 2⟩, ⟨0x97, 0x2248, 1⟩,
   ⟨0x98, 0x2264, 2⟩, ⟨0x9A, 0xA0, 1⟩, ⟨0x9B, 0x2321, 1⟩, ⟨0x9C, 0xB0, 1⟩, ⟨0x9D, 0xB2, 1⟩,
   ⟨0x9E, 0xB7, 1⟩, ⟨0x9F, 0xF7, 1⟩, ⟨0xA0, 0x2550, 3⟩, ⟨0xA3, 0x451, 1⟩, ⟨0xA4, 0x2553, 15⟩,
   ⟨0xB3, 0x401, 1⟩, ⟨0xB4, 0x2562, 11⟩, ⟨0xBF, 0xA9, 1⟩, ⟨0xC0, 0x44E, 1⟩, ⟨0xC1, 0x430, 2⟩,
   ⟨0xC3, 0x446, 1⟩, ⟨0xC4, 0x434, 2⟩, ⟨0xC6, 0x444, 1⟩, ⟨0xC7, 0x433, 1⟩, ⟨0xC8, 0x445, 1⟩,
   ⟨0xC9, 0x438, 8⟩, ⟨0xD1, 0x44F, 1⟩, ⟨0xD2, 0x440, 4⟩, ⟨0xD6, 0x436, 1⟩, ⟨0xD7, 0x432, 1⟩,
   ⟨0xD8, 0x44C, 1⟩, ⟨0xD9, 0x44B, 1⟩, ⟨0xDA, 0x437, 1⟩, ⟨0xDB, 0x448, 1⟩, ⟨0xDC, 0x44D, 1⟩,
   ⟨0xDD, 0x449, 1⟩, ⟨0xDE, 0x447, 1⟩, ⟨0xDF, 0x44A, 1⟩, ⟨0xE0, 0x42E, 1⟩, ⟨0xE1, 0x410, 2⟩,
   ⟨0xE3, 0x426, 1⟩, ⟨0xE4, 0x414, 2⟩, ⟨0xE6, 0x424, 1⟩, ⟨0xE7, 0x413, 1⟩, ⟨0xE8, 0x425, 1⟩,
   ⟨0xE9, 0x418, 8⟩, ⟨0xF1, 0x42F, 1⟩, ⟨0xF2, 0x420, 4⟩, ⟨0xF6, 0x416, 1⟩, ⟨0xF7, 0x412, 1⟩,
   ⟨0xF8, 0x42C, 1⟩, ⟨0xF9, 0x42B, 1⟩, ⟨0xFA, 0x417, 1⟩, ⟨0xFB, 0x428, 1⟩, ⟨0xFC, 0x42D, 1⟩,
   ⟨0xFD, 0x429, 1⟩, ⟨0xFE, 0x427, 1⟩, ⟨0xFF, 0x42A, 1⟩]

def koi8UUpper : Index :=
  [⟨0x80, 0x2500, 1⟩, ⟨0x81, 0x2502, 1⟩, ⟨0x82, 0x250C, 1⟩, ⟨0x83, 0x2510, 1⟩, ⟨0x84, 0x2514, 1⟩,
   ⟨0x85, 0x2518, 1⟩, ⟨0x86, 0x251C, 1⟩, ⟨0x87, 0x2524, 1⟩, ⟨0x88, 0x252C, 1⟩, ⟨0x89, 0x2534, 1⟩,
   ⟨0x8A, 0x253C, 1⟩, ⟨0x8B, 0x2580, 1⟩, ⟨0x8C, 0x2584, 1⟩, ⟨0x8D, 0x2588, 1⟩, ⟨0x8E, 0x258C, 1⟩,
   ⟨0x8F, 0x2590, 4⟩, ⟨0x93, 0x2320, 1⟩, ⟨0x94, 0x25A0, 1⟩, ⟨0x95, 0x2219, 2⟩, ⟨0x97, 0x2248, 1⟩,
   ⟨0x98, 0x2264, 2⟩, ⟨0x9A, 0xA0, 1⟩, ⟨0x9B, 0x2321, 1⟩, ⟨0x9C, 0xB0, 1⟩, ⟨0x9D, 0xB2, 1⟩,
   ⟨0x9E, 0xB7, 1⟩, ⟨0x9F, 0xF7, 1⟩, ⟨0xA0, 0x2550, 3⟩, ⟨0xA3, 0x451, 1⟩, ⟨0xA4, 0x454, 1⟩,
   ⟨0xA5, 0x2554, 1⟩, ⟨0xA6, 0x456, 2⟩, ⟨0xA8, 0x2557, 5⟩, ⟨0xAD, 0x491, 1⟩, ⟨0xAE, 0x45E, 1⟩,
   ⟨0xAF, 0x255E, 4⟩, ⟨0xB3, 0x401, 1⟩, ⟨0xB4, 0x404, 1⟩, ⟨0xB5, 0x2563, 1⟩, ⟨0xB6, 0x406, 2⟩,
   ⟨0xB8, 0x2566, 5⟩, ⟨0xBD, 0x490, 1⟩, ⟨0xBE, 0x40E, 1⟩, ⟨0xBF, 0xA9, 1⟩, ⟨0xC0, 0x44E, 1⟩,
   ⟨0xC1, 0x430, 2⟩, ⟨0xC3, 0x446, 1⟩, ⟨0xC4, 0x434, 2⟩, ⟨0xC6, 0x444, 1⟩, ⟨0xC7, 0x433, 1⟩,
   ⟨0xC8, 0x445, 1⟩, ⟨0xC9, 0x438, 8⟩, ⟨0xD1, 0x44F, 1⟩, ⟨0xD2, 0x440, 4⟩, ⟨0xD6, 0x436, 1⟩,
   ⟨0xD7, 0x432, 1⟩, ⟨0xD8, 0x44C, 1⟩, ⟨0xD9, 0x44B, 1⟩, ⟨0xDA, 0x437, 1⟩, ⟨0xDB, 0x448, 1⟩,
   ⟨0xDC, 0x44D, 1⟩, ⟨0xDD, 0x449, 1⟩, ⟨0xDE, 0x447, 1⟩, ⟨0xDF, 0x44A, 1⟩, ⟨0xE0, 0x42E, 1⟩,
   ⟨0xE1, 0x410, 2⟩, ⟨0xE3, 0x426, 1⟩, ⟨0xE4, 0x414, 2⟩, ⟨0xE6, 0x424, 1⟩, ⟨0xE7, 0x413, 1⟩,
   ⟨0xE8, 0x425, 1⟩, ⟨0xE9, 0x418, 8⟩, ⟨0xF1, 0x42F, 1⟩, ⟨0xF2, 0x420, 4⟩, ⟨0xF6, 0x416, 1⟩,
   ⟨0xF7, 0x412, 1⟩, ⟨0xF8, 0x42C, 1⟩, ⟨0xF9, 0x42B, 1⟩, ⟨0xFA, 0x417, 1⟩, ⟨0xFB, 0x428, 1⟩,
   ⟨0xFC, 0x42D, 1⟩, ⟨0xFD, 0x429, 1⟩, ⟨0xFE, 0x427, 1⟩, ⟨0xFF, 0x42A, 1⟩]

def macintoshUpper : Index :=
  [⟨0x80, 0xC4, 2⟩, ⟨0x82, 0xC7, 1⟩, ⟨0x83, 0xC9, 1⟩, ⟨0x84, 0xD1, 1⟩, ⟨0x85, 0xD6, 1⟩,
   ⟨0x86, 0xDC, 1⟩, ⟨0x87, 0xE1, 1⟩, ⟨0x88, 0xE0, 1⟩, ⟨0x89, 0xE2, 1⟩, ⟨0x8A, 0xE4, 1⟩,
   ⟨0x8B, 0xE3, 1⟩, ⟨0x8C, 0xE5, 1⟩, ⟨0x8D, 0xE7, 1⟩, ⟨0x8E, 0xE9, 1⟩, ⟨0x8F, 0xE8, 1⟩,
   ⟨0x90, 0xEA, 2⟩, ⟨0x92, 0xED, 1⟩, ⟨0x93, 0xEC, 1⟩, ⟨0x94, 0xEE, 2⟩, ⟨0x96, 0xF1, 1⟩,
   ⟨0x97, 0xF3, 1⟩, ⟨0x98, 0xF2, 1⟩, ⟨0x99, 0xF4, 1⟩, ⟨0x9A, 0xF6, 1⟩, ⟨0x9B, 0xF5, 1⟩,
   ⟨0x9C, 0xFA, 1⟩, ⟨0x9D, 0xF9, 1⟩, ⟨0x9E, 0xFB, 2⟩, ⟨0xA0, 0x2020, 1⟩, ⟨0xA1, 0xB0, 1⟩,
   ⟨0xA2, 0xA2, 2⟩, ⟨0xA4, 0xA7, 1⟩, ⟨0xA5, 0x2022, 1⟩, ⟨0xA6, 0xB6, 1⟩, ⟨0xA7, 0xDF, 1⟩,
   ⟨0xA8, 0xAE, 1⟩, ⟨0xA9, 0xA9, 1⟩, ⟨0xAA, 0x2122, 1⟩, ⟨0xAB, 0xB4, 1⟩, ⟨0xAC, 0xA8, 1⟩,
   ⟨0xAD, 0x2260, 1⟩, ⟨0xAE, 0xC6, 1⟩, ⟨0xAF, 0xD8, 1⟩, ⟨0xB0, 0x221E, 1⟩, ⟨0xB1, 0xB1, 1⟩,
   ⟨0xB2, 0x2264, 2⟩, ⟨0xB4, 0xA5, 1⟩, ⟨0xB5, 0xB5, 1⟩, ⟨0xB6, 0x2202, 1⟩, ⟨0xB7, 0x2211, 1⟩,
   ⟨0xB8, 0x220F, 1⟩, ⟨0xB9, 0x3C0, 1⟩, ⟨0xBA, 0x222B, 1⟩, ⟨0xBB, 0xAA, 1⟩, ⟨0xBC, 0xBA, 1⟩,
   ⟨0xBD, 0x3A9, 1⟩, ⟨0xBE, 0xE6, 1⟩, ⟨0xBF, 0xF8, 1⟩, ⟨0xC0, 0xBF, 1⟩, ⟨0xC1, 0xA1, 1⟩,
   ⟨0xC2, 0xAC, 1⟩, ⟨0xC3, 0x221A, 1⟩, ⟨0xC4, 0x192, 1⟩, ⟨0xC5, 0x2248, 1⟩, ⟨0xC6, 0x2206, 1⟩,
   ⟨0xC7, 0xAB, 1⟩, ⟨0xC8, 0xBB, 1⟩, ⟨0xC9, 0x2026, 1⟩, ⟨0xCA, 0xA0, 1⟩, ⟨0xCB, 0xC0, 1⟩,
   ⟨0xCC, 0xC3, 1⟩, ⟨0xCD, 0xD5, 1⟩, ⟨0xCE, 0x152, 2⟩, ⟨0xD0, 0x2013, 2⟩, ⟨0xD2, 0x201C, 2⟩,
   ⟨0xD4, 0x2018, 2⟩, ⟨0xD6, 0xF7, 1⟩, ⟨0xD7, 0x25CA, 1⟩, ⟨0xD8, 0xFF, 1⟩, ⟨0xD9, 0x178, 1⟩,
   ⟨0xDA, 0x2044, 1⟩, ⟨0xDB, 0x20AC, 1⟩, ⟨0xDC, 0x2039, 2⟩, ⟨0xDE, 0xFB01, 2⟩, ⟨0xE0, 0x2021, 1⟩,
   ⟨0xE1, 0xB7, 1⟩, ⟨0xE2, 0x201A, 1⟩, ⟨0xE3, 0x201E, 1⟩, ⟨0xE4, 0x2030, 1⟩, ⟨0xE5, 0xC2, 1⟩,
   ⟨0xE6, 0xCA, 1⟩, ⟨0xE7, 0xC1, 1⟩, ⟨0xE8, 0xCB, 1⟩, ⟨0xE9, 0xC8, 1⟩, ⟨0xEA, 0xCD, 3⟩,
   ⟨0xED, 0xCC, 1⟩, ⟨0xEE, 0xD3, 2⟩, ⟨0xF0, 0xF8FF, 1⟩, ⟨0xF1, 0xD2, 1⟩, ⟨0xF2, 0xDA, 2⟩,
   ⟨0xF4, 0xD9, 1⟩, ⟨0xF5, 0x131, 1⟩, ⟨0xF6, 0x2C6, 1⟩, ⟨0xF7, 0x2DC, 1⟩, ⟨0xF8, 0xAF, 1⟩,
   ⟨0xF9, 0x2D8, 3⟩, ⟨0xFC, 0xB8, 1⟩, ⟨0xFD, 0x2DD, 1⟩, ⟨0xFE, 0x2DB, 1⟩, ⟨0xFF, 0x2C7, 1⟩]

def windows874Upper : Index :=
  [⟨0x80, 0x20AC, 1⟩, ⟨0x81, 0x81, 4⟩, ⟨0x85, 0x2026, 1⟩, ⟨0x86, 0x86, 11⟩, ⟨0x91, 0x2018, 2⟩,
   ⟨0x93, 0x201C, 2⟩, ⟨0x95, 0x2022, 1⟩, ⟨0x96, 0x2013, 2⟩, ⟨0x98, 0x98, 9⟩, ⟨0xA1, 0xE01, 58⟩,
   ⟨0xDF, 0xE3F, 29⟩]

def windows1250Upper : Index :=
  [⟨0x80, 0x20AC, 1⟩, ⟨0x81, 0x81, 1⟩, ⟨0x82, 0x201A, 1⟩, ⟨0x83, 0x83, 1⟩, ⟨0x84, 0x201E, 1⟩,
   ⟨0x85, 0x2026, 1⟩, ⟨0x86, 0x2020, 2⟩, ⟨0x88, 0x88, 1⟩, ⟨0x89, 0x2030, 1⟩, ⟨0x8A, 0x160, 1⟩,
   ⟨0x8B, 0x2039, 1⟩, ⟨0x8C, 0x15A, 1⟩, ⟨0x8D, 0x164, 1⟩, ⟨0x8E, 0x17D, 1⟩, ⟨0x8F, 0x179, 1⟩,
   ⟨0x90, 0x90, 1⟩, ⟨0x91, 0x2018, 2⟩, ⟨0x93, 0x201C, 2⟩, ⟨0x95, 0x2022, 1⟩, ⟨0x96, 0x2013, 2⟩,
   ⟨0x98, 0x98, 1⟩, ⟨0x99, 0x2122, 1⟩, ⟨0x9A, 0x161, 1⟩, ⟨0x9B, 0x203A, 1⟩, ⟨0x9C, 0x15B, 1⟩,
   ⟨0x9D, 0x165, 1⟩, ⟨0x9E, 0x17E, 1⟩, ⟨0x9F, 0x17A, 1⟩, ⟨0xA0, 0xA0, 1⟩, ⟨0xA1, 0x2C7, 1⟩,
   ⟨0xA2, 0x2D8, 1⟩, ⟨0xA3, 0x141, 1⟩, ⟨0xA4, 0xA4, 1⟩, ⟨0xA5, 0x104, 1⟩, ⟨0xA6, 0xA6, 4⟩,
   ⟨0xAA, 0x15E, 1⟩, ⟨0xAB, 0xAB, 4⟩, ⟨0xAF, 0x17B, 1⟩, ⟨0xB0, 0xB0, 2⟩, ⟨0xB2, 0x2DB, 1⟩,
   ⟨0xB3, 0x142, 1⟩, ⟨0xB4, 0xB4, 5⟩, ⟨0xB9, 0x105, 1⟩, ⟨0xBA, 0x15F, 1⟩, ⟨0xBB, 0xBB, 1⟩,
   ⟨0xBC, 0x13D, 1⟩, ⟨0xBD, 0x2DD, 1⟩, ⟨0xBE, 0x13E, 1⟩, ⟨0xBF, 0x17C, 1⟩, ⟨0xC0, 0x154, 1⟩,
   ⟨0xC1, 0xC1, 2⟩, ⟨0xC3, 0x102, 1⟩, ⟨0xC4, 0xC4, 1⟩, ⟨0xC5, 0x139, 1⟩, ⟨0xC6, 0x106, 1⟩,
   ⟨0xC7, 0xC7, 1⟩, ⟨0xC8, 0x10C, 1⟩, ⟨0xC9, 0xC9, 1⟩, ⟨0xCA, 0x118, 1⟩, ⟨0xCB, 0xCB, 1⟩,
   ⟨0xCC, 0x11A, 1⟩, ⟨0xCD, 0xCD, 2⟩, ⟨0xCF, 0x10E, 1⟩, ⟨0xD0, 0x110, 1⟩, ⟨0xD1, 0x143, 1⟩,
   ⟨0xD2, 0x147, 1⟩, ⟨0xD3, 0xD3, 2⟩, ⟨0xD5, 0x150, 1⟩, ⟨0xD6, 0xD6, 2⟩, ⟨0xD8, 0x158, 1⟩,
   ⟨0xD9, 0x16E, 1⟩, ⟨0xDA, 0xDA, 1⟩, ⟨0xDB, 0x170, 1⟩, ⟨0xDC, 0xDC, 2⟩, ⟨0xDE, 0x162, 1⟩,
   ⟨0xDF, 0xDF, 1⟩, ⟨0xE0, 0x155, 1⟩, ⟨0xE1, 0xE1, 2⟩, ⟨0xE3, 0x103, 1⟩, ⟨0xE4, 0xE4, 1⟩,
   ⟨0xE5, 0x13A, 1⟩, ⟨0xE6, 0x107, 1⟩, ⟨0xE7, 0xE7, 1⟩, ⟨0xE8, 0x10D, 1⟩, ⟨0xE9, 0xE9, 1⟩,
   ⟨0xEA, 0x119, 1⟩, ⟨0xEB, 0xEB, 1⟩, ⟨0xEC, 0x11B, 1⟩, ⟨0xED, 0xED, 2⟩, ⟨0xEF, 0x10F, 1⟩,
   ⟨0xF0, 0x111, 1⟩, ⟨0xF1, 0x144, 1⟩, ⟨0xF2, 0x148, 1⟩, ⟨0xF3, 0xF3, 2⟩, ⟨0xF5, 0x151, 1⟩,
   ⟨0xF6, 0xF6, 2⟩, ⟨0xF8, 0x159, 1⟩, ⟨0xF9, 0x16F, 1⟩, ⟨0xFA, 0xFA, 1⟩, ⟨0xFB, 0x171, 1⟩,
   ⟨0xFC, 0xFC, 2⟩, ⟨0xFE, 0x163, 1⟩, ⟨0xFF, 0x2D9, 1⟩]

def windows1251Upper : Index :=
  [⟨0x80, 0x402, 2⟩, ⟨0x82, 0x201A, 1⟩, ⟨0x83, 0x453, 1⟩, ⟨0x84, 0x201E, 1⟩, ⟨0x85, 0x2026, 1⟩,
   ⟨0x86, 0x2020, 2⟩, ⟨0x88, 0x20AC, 1⟩, ⟨0x89, 0x2030, 1⟩, ⟨0x8A, 0x409, 1⟩, ⟨0x8B, 0x2039, 1⟩,
   ⟨0x8C, 0x40A, 1⟩, ⟨0x8D, 0x40C, 1⟩, ⟨0x8E, 0x40B, 1⟩, ⟨0x8F, 0x40F, 1⟩, ⟨0x90, 0x452, 1⟩,
   ⟨0x91, 0x2018, 2⟩, ⟨0x93, 0x201C, 2⟩, ⟨0x95, 0x2022, 1⟩, ⟨0x96, 0x2013, 2⟩, ⟨0x98, 0x98, 1⟩,
   ⟨0x99, 0x2122, 1⟩, ⟨0x9A, 0x459, 1⟩, ⟨0x9B, 0x203A, 1⟩, ⟨0x9C, 0x45A, 1⟩, ⟨0x9D, 0x45C, 1⟩,
   ⟨0x9E, 0x45B, 1⟩, ⟨0x9F, 0x45F, 1⟩, ⟨0xA0, 0xA0, 1⟩, ⟨0xA1, 0x40E, 1⟩, ⟨0xA2, 0x45E, 1⟩,
   ⟨0xA3, 0x408, 1⟩, ⟨0xA4, 0xA4, 1⟩, ⟨0xA5, 0x490, 1⟩, ⟨0xA6, 0xA6, 2⟩, ⟨0xA8, 0x401, 1⟩,
   ⟨0xA9, 0xA9, 1⟩, ⟨0xAA, 0x404, 1⟩, ⟨0xAB, 0xAB, 4⟩, ⟨0xAF, 0x407, 1⟩, ⟨0xB0, 0xB0, 2⟩,
   ⟨0xB2, 0x406, 1⟩, ⟨0xB3, 0x456, 1⟩, ⟨0xB4, 0x491, 1⟩, ⟨0xB5, 0xB5, 3⟩, ⟨0xB8, 0x451, 1⟩,
   ⟨0xB9, 0x2116, 1⟩, ⟨0xBA, 0x454, 1⟩, ⟨0xBB, 0xBB, 1⟩, ⟨0xBC, 0x458, 1⟩, ⟨0xBD, 0x405, 1⟩,
   ⟨0xBE, 0x455, 1⟩, ⟨0xBF, 0x457, 1⟩, ⟨0xC0, 0x410, 64⟩]

def windows1252Upper : Index :=
  [⟨0x80, 0x20AC, 1⟩, ⟨0x81, 0x81, 1⟩, ⟨0x82, 0x201A, 1⟩, ⟨0x83, 0x192, 1⟩, ⟨0x84, 0x201E, 1⟩,
   ⟨0x85, 0x2026, 1⟩, ⟨0x86, 0x2020, 2⟩, ⟨0x88, 0x2C6, 1⟩, ⟨0x89, 0x2030, 1⟩, ⟨0x8A, 0x160, 1⟩,
   ⟨0x8B, 0x2039, 1⟩, ⟨0x8C, 0x152, 1⟩, ⟨0x8D, 0x8D, 1⟩, ⟨0x8E, 0x17D, 1⟩, ⟨0x8F, 0x8F, 2⟩,
   ⟨0x91, 0x2018, 2⟩, ⟨0x93, 0x201C, 2⟩, ⟨0x95, 0x2022, 1⟩, ⟨0x96, 0x2013, 2⟩, ⟨0x98, 0x2DC, 1⟩,
   ⟨0x99, 0x2122, 1⟩, ⟨0x9A, 0x161, 1⟩, ⟨0x9B, 0x203A, 1⟩, ⟨0x9C, 0x153, 1⟩, ⟨0x9D, 0x9D, 1⟩,
   ⟨0x9E, 0x17E, 1⟩, ⟨0x9F, 0x178, 1⟩, ⟨0xA0, 0xA0, 96⟩]

def windows1253Upper : Index :=
  [⟨0x80, 0x20AC, 1⟩, ⟨0x81, 0x81, 1⟩, ⟨0x82, 0x201A, 1⟩, ⟨0x83, 0x192, 1⟩, ⟨0x84, 0x201E, 1⟩,
   ⟨0x85, 0x2026, 1⟩, ⟨0x86, 0x2020, 2⟩, ⟨0x88, 0x88, 1⟩, ⟨0x89, 0x2030, 1⟩, ⟨0x8A, 0x8A, 1⟩,
   ⟨0x8B, 0x2039, 1⟩, ⟨0x8C, 0x8C, 5⟩, ⟨0x91, 0x2018, 2⟩, ⟨0x93, 0x201C, 2⟩, ⟨0x95, 0x2022, 1⟩,
   ⟨0x96, 0x2013, 2⟩, ⟨0x98, 0x98, 1⟩, ⟨0x99, 0x2122, 1⟩, ⟨0x9A, 0x9A, 1⟩, ⟨0x9B, 0x203A, 1⟩,
   ⟨0x9C, 0x9C, 5⟩, ⟨0xA1, 0x385, 2⟩, ⟨0xA3, 0xA3, 7⟩, ⟨0xAB, 0xAB, 4⟩, ⟨0xAF, 0x2015, 1⟩,
   ⟨0xB0, 0xB0, 4⟩, ⟨0xB4, 0x384, 1⟩, ⟨0xB5, 0xB5, 3⟩, ⟨0xB8, 0x388, 3⟩, ⟨0xBB, 0xBB, 1⟩,
   ⟨0xBC, 0x38C, 1⟩, ⟨0xBD, 0xBD, 1⟩, ⟨0xBE, 0x38E, 20⟩, ⟨0xD3, 0x3A3, 44⟩]

def windows1254Upper : Index :=
  [⟨0x80, 0x20AC, 1⟩, ⟨0x81, 0x81, 1⟩, ⟨0x82, 0x201A, 1⟩, ⟨0x83, 0x192, 1⟩, ⟨0x84, 0x201E, 1⟩,
   ⟨0x85, 0x2026, 1⟩, ⟨0x86, 0x2020, 2⟩, ⟨0x88, 0x2C6, 1⟩, ⟨0x89, 0x2030, 1⟩, ⟨0x8A, 0x160, 1⟩,
   ⟨0x8B, 0x2039, 1⟩, ⟨0x8C, 0x152, 1⟩, ⟨0x8D, 0x8D, 4⟩, ⟨0x91, 0x2018, 2⟩, ⟨0x93, 0x201C, 2⟩,
   ⟨0x95, 0x2022, 1⟩, ⟨0x96, 0x2013, 2⟩, ⟨0x98, 0x2DC, 1⟩, ⟨0x99, 0x2122, 1⟩, ⟨0x9A, 0x161, 1⟩,
   ⟨0x9B, 0x203A, 1⟩, ⟨0x9C, 0x153, 1⟩, ⟨0x9D, 0x9D, 2⟩, ⟨0x9F, 0x178, 1⟩, ⟨0xA0, 0xA0, 48⟩,
   ⟨0xD0, 0x11E, 1⟩, ⟨0xD1, 0xD1, 12⟩, ⟨0xDD, 0x130, 1⟩, ⟨0xDE, 0x15E, 1⟩, ⟨0xDF, 0xDF, 17⟩,
   ⟨0xF0, 0x11F, 1⟩, ⟨0xF1, 0xF1, 12⟩, ⟨0xFD, 0x131, 1⟩, ⟨0xFE, 0x15F, 1⟩, ⟨0xFF, 0xFF, 1⟩]

def windows1255Upper : Index :=
  [⟨0x80, 0x20AC, 1⟩, ⟨0x81, 0x81, 1⟩, ⟨0x82, 0x201A, 1⟩, ⟨0x83, 0x192, 1⟩, ⟨0x84, 0x201E, 1⟩,
   ⟨0x85, 0x2026, 1⟩, ⟨0x86, 0x2020, 2⟩, ⟨0x88, 0x2C6, 1⟩, ⟨0x89, 0x2030, 1⟩, ⟨0x8A, 0x8A, 1⟩,
   ⟨0x8B, 0x2039, 1⟩, ⟨0x8C, 0x8C, 5⟩, ⟨0x91, 0x2018, 2⟩, ⟨0x93, 0x201C, 2⟩, ⟨0x95, 0x2022, 1⟩,
   ⟨0x96, 0x2013, 2⟩, ⟨0x98, 0x2DC, 1⟩, ⟨0x99, 0x2122, 1⟩, ⟨0x9A, 0x9A, 1⟩, ⟨0x9B, 0x203A, 1⟩,
   ⟨0x9C, 0x9C, 8⟩, ⟨0xA4, 0x20AA, 1⟩, ⟨0xA5, 0xA5, 5⟩, ⟨0xAA, 0xD7, 1⟩, ⟨0xAB, 0xAB, 15⟩,
   ⟨0xBA, 0xF7, 1⟩, ⟨0xBB, 0xBB, 5⟩, ⟨0xC0, 0x5B0, 20⟩, ⟨0xD4, 0x5F0, 5⟩, ⟨0xE0, 0x5D0, 27⟩,
   ⟨0xFD, 0x200E, 2⟩]

def windows1256Upper : Index :=
  [⟨0x80, 0x20AC, 1⟩, ⟨0x81, 0x67E, 1⟩, ⟨0x82, 0x201A, 1⟩, ⟨0x83, 0x192, 1⟩, ⟨0x84, 0x201E, 1⟩,
   ⟨0x85, 0x2026, 1⟩, ⟨0x86, 0x2020, 2⟩, ⟨0x88, 0x2C6, 1⟩, ⟨0x89, 0x2030, 1⟩, ⟨0x8A, 0x679, 1⟩,
   ⟨0x8B, 0x2039, 1⟩, ⟨0x8C, 0x152, 1⟩, ⟨0x8D, 0x686, 1⟩, ⟨0x8E, 0x698, 1⟩, ⟨0x8F, 0x688, 1⟩,
   ⟨0x90, 0x6AF, 1⟩, ⟨0x91, 0x2018, 2⟩, ⟨0x93, 0x201C, 2⟩, ⟨0x95, 0x2022, 1⟩, ⟨0x96, 0x2013, 2⟩,
   ⟨0x98, 0x6A9, 1⟩, ⟨0x99, 0x2122, 1⟩, ⟨0x9A, 0x691, 1⟩, ⟨0x9B, 0x203A, 1⟩, ⟨0x9C, 0x153, 1⟩,
   ⟨0x9D, 0x200C, 2⟩, ⟨0x9F, 0x6BA, 1⟩, ⟨0xA0, 0xA0, 1⟩, ⟨0xA1, 0x60C, 1⟩, ⟨0xA2, 0xA2, 8⟩,
   ⟨0xAA, 0x6BE, 1⟩, ⟨0xAB, 0xAB, 15⟩, ⟨0xBA, 0x61B, 1⟩, ⟨0xBB, 0xBB, 4⟩, ⟨0xBF, 0x61F, 1⟩,
   ⟨0xC0, 0x6C1, 1⟩, ⟨0xC1, 0x621, 22⟩, ⟨0xD7, 0xD7, 1⟩, ⟨0xD8, 0x637, 4⟩, ⟨0xDC, 0x640, 4⟩,
   ⟨0xE0, 0xE0, 1⟩, ⟨0xE1, 0x644, 1⟩, ⟨0xE2, 0xE2, 1⟩, ⟨0xE3, 0x645, 4⟩, ⟨0xE7, 0xE7, 5⟩,
   ⟨0xEC, 0x649, 2⟩, ⟨0xEE, 0xEE, 2⟩, ⟨0xF0, 0x64B, 4⟩, ⟨0xF4, 0xF4, 1⟩, ⟨0xF5, 0x64F, 2⟩,
   ⟨0xF7, 0xF7, 1⟩, ⟨0xF8, 0x651, 1⟩, ⟨0xF9, 0xF9, 1⟩, ⟨0xFA, 0x652, 1⟩, ⟨0xFB, 0xFB, 2⟩,
   ⟨0xFD, 0x200E, 2⟩, ⟨0xFF, 0x6D2, 1⟩]

def windows1257Upper : Index :=
  [⟨0x80, 0x20AC, 1⟩, ⟨0x81, 0x81, 1⟩, ⟨0x82, 0x201A, 1⟩, ⟨0x83, 0x83, 1⟩, ⟨0x84, 0x201E, 1⟩,
   ⟨0x85, 0x2026, 1⟩, ⟨0x86, 0x2020, 2⟩, ⟨0x88, 0x88, 1⟩, ⟨0x89, 0x2030, 1⟩, ⟨0x8A, 0x8A, 1⟩,
   ⟨0x8B, 0x2039, 1⟩, ⟨0x8C, 0x8C, 1⟩, ⟨0x8D, 0xA8, 1⟩, ⟨0x8E, 0x2C7, 1⟩, ⟨0x8F, 0xB8, 1⟩,
   ⟨0x90, 0x90, 1⟩, ⟨0x91, 0x2018, 2⟩, ⟨0x93, 0x201C, 2⟩, ⟨0x95, 0x2022, 1⟩, ⟨0x96, 0x2013, 2⟩,
   ⟨0x98, 0x98, 1⟩, ⟨0x99, 0x2122, 1⟩, ⟨0x9A, 0x9A, 1⟩, ⟨0x9B, 0x203A, 1⟩, ⟨0x9C, 0x9C, 1⟩,
   ⟨0x9D, 0xAF, 1⟩, ⟨0x9E, 0x2DB, 1⟩, ⟨0x9F, 0x9F, 2⟩, ⟨0xA2, 0xA2, 3⟩, ⟨0xA6, 0xA6, 2⟩,
   ⟨0xA8, 0xD8, 1⟩, ⟨0xA9, 0xA9, 1⟩, ⟨0xAA, 0x156, 1⟩, ⟨0xAB, 0xAB, 4⟩, ⟨0xAF, 0xC6, 1⟩,
   ⟨0xB0, 0xB0, 8⟩, ⟨0xB8, 0xF8, 1⟩, ⟨0xB9, 0xB9, 1⟩, ⟨0xBA, 0x157, 1⟩, ⟨0xBB, 0xBB, 4⟩,
   ⟨0xBF, 0xE6, 1⟩, ⟨0xC0, 0x104, 1⟩, ⟨0xC1, 0x12E, 1⟩, ⟨0xC2, 0x100, 1⟩, ⟨0xC3, 0x106, 1⟩,
   ⟨0xC4, 0xC4, 2⟩, ⟨0xC6, 0x118, 1⟩, ⟨0xC7, 0x112, 1⟩, ⟨0xC8, 0x10C, 1⟩, ⟨0xC9, 0xC9, 1⟩,
   ⟨0xCA, 0x179, 1⟩, ⟨0xCB, 0x116, 1⟩, ⟨0xCC, 0x122, 1⟩, ⟨0xCD, 0x136, 1⟩, ⟨0xCE, 0x12A, 1⟩,
   ⟨0xCF, 0x13B, 1⟩, ⟨0xD0, 0x160, 1⟩, ⟨0xD1, 0x143, 1⟩, ⟨0xD2, 0x145, 1⟩, ⟨0xD3, 0xD3, 1⟩,
   ⟨0xD4, 0x14C, 1⟩, ⟨0xD5, 0xD5, 3⟩, ⟨0xD8, 0x172, 1⟩, ⟨0xD9, 0x141, 1⟩, ⟨0xDA, 0x15A, 1⟩,
   ⟨0xDB, 0x16A, 1⟩, ⟨0xDC, 0xDC, 1⟩, ⟨0xDD, 0x17B, 1⟩, ⟨0xDE, 0x17D, 1⟩, ⟨0xDF, 0xDF, 1⟩,
   ⟨0xE0, 0x105, 1⟩, ⟨0xE1, 0x12F, 1⟩, ⟨0xE2, 0x101, 1⟩, ⟨0xE3, 0x107, 1⟩, ⟨0xE4, 0xE4, 2⟩,
   ⟨0xE6, 0x119, 1⟩, ⟨0xE7, 0x113, 1⟩, ⟨0xE8, 0x10D, 1⟩, ⟨0xE9, 0xE9, 1⟩, ⟨0xEA, 0x17A, 1⟩,
   ⟨0xEB, 0x117, 1⟩, ⟨0xEC, 0x123, 1⟩, ⟨0xED, 0x137, 1⟩, ⟨0xEE, 0x12B, 1⟩, ⟨0xEF, 0x13C, 1⟩,
   ⟨0xF0, 0x161, 1⟩, ⟨0xF1, 0x144, 1⟩, ⟨0xF2, 0x146, 1⟩, ⟨0xF3, 0xF3, 1⟩, ⟨0xF4, 0x14D, 1⟩,
   ⟨0xF5, 0xF5, 3⟩, ⟨0xF8, 0x173, 1⟩, ⟨0xF9, 0x142, 1⟩, ⟨0xFA, 0x15B, 1⟩, ⟨0xFB, 0x16B, 1⟩,
   ⟨0xFC, 0xFC, 1⟩, ⟨0xFD, 0x17C, 1⟩, ⟨0xFE, 0x17E, 1⟩, ⟨0xFF, 0x2D9, 1⟩]

def windows1258Upper : Index :=
  [⟨0x80, 0x20AC, 1⟩, ⟨0x81, 0x81, 1⟩, ⟨0x82, 0x201A, 1⟩, ⟨0x83, 0x192, 1⟩, ⟨0x84, 0x201E, 1⟩,
   ⟨0x85, 0x2026, 1⟩, ⟨0x86, 0x2020, 2⟩, ⟨0x88, 0x2C6, 1⟩, ⟨0x89, 0x2030, 1⟩, ⟨0x8A, 0x8A, 1⟩,
   ⟨0x8B, 0x2039, 1⟩, ⟨0x8C, 0x152, 1⟩, ⟨0x8D, 0x8D, 4⟩, ⟨0x91, 0x2018, 2⟩, ⟨0x93, 0x201C, 2⟩,
   ⟨0x95, 0x2022, 1⟩, ⟨0x96, 0x2013, 2⟩, ⟨0x98, 0x2DC, 1⟩, ⟨0x99, 0x2122, 1⟩, ⟨0x9A, 0x9A, 1⟩,
   ⟨0x9B, 0x203A, 1⟩, ⟨0x9C, 0x153, 1⟩, ⟨0x9D, 0x9D, 2⟩, ⟨0x9F, 0x178, 1⟩, ⟨0xA0, 0xA0, 35⟩,
   ⟨0xC3, 0x102, 1⟩, ⟨0xC4, 0xC4, 8⟩, ⟨0xCC, 0x300, 1⟩, ⟨0xCD, 0xCD, 3⟩, ⟨0xD0, 0x110, 1⟩,
   ⟨0xD1, 0xD1, 1⟩, ⟨0xD2, 0x309, 1⟩, ⟨0xD3, 0xD3, 2⟩, ⟨0xD5, 0x1A0, 1⟩, ⟨0xD6, 0xD6, 7⟩,
   ⟨0xDD, 0x1AF, 1⟩, ⟨0xDE, 0x303, 1⟩, ⟨0xDF, 0xDF, 4⟩, ⟨0xE3, 0x103, 1⟩, ⟨0xE4, 0xE4, 8⟩,
   ⟨0xEC, 0x301, 1⟩, ⟨0xED, 0xED, 3⟩, ⟨0xF0, 0x111, 1⟩, ⟨0xF1, 0xF1, 1⟩, ⟨0xF2, 0x323, 1⟩,
   ⟨0xF3, 0xF3, 2⟩, ⟨0xF5, 0x1A1, 1⟩, ⟨0xF6, 0xF6, 7⟩, ⟨0xFD, 0x1B0, 1⟩, ⟨0xFE, 0x20AB, 1⟩,
   ⟨0xFF, 0xFF, 1⟩]

def macCyrillicUpper : Index :=
  [⟨0x80, 0x410, 32⟩, ⟨0xA0, 0x2020, 1⟩, ⟨0xA1, 0xB0, 1⟩, ⟨0xA2, 0x490, 1⟩, ⟨0xA3, 0xA3, 1⟩,
   ⟨0xA4, 0xA7, 1⟩, ⟨0xA5, 0x2022, 1⟩, ⟨0xA6, 0xB6, 1⟩, ⟨0xA7, 0x406, 1⟩, ⟨0xA8, 0xAE, 1⟩,
   ⟨0xA9, 0xA9, 1⟩, ⟨0xAA, 0x2122, 1⟩, ⟨0xAB, 0x402, 1⟩, ⟨0xAC, 0x452, 1⟩, ⟨0xAD, 0x2260, 1⟩,
   ⟨0xAE, 0x403, 1⟩, ⟨0xAF, 0x453, 1⟩, ⟨0xB0, 0x221E, 1⟩, ⟨0xB1, 0xB1, 1⟩, ⟨0xB2, 0x2264, 2⟩,
   ⟨0xB4, 0x456, 1⟩, ⟨0xB5, 0xB5, 1⟩, ⟨0xB6, 0x491, 1⟩, ⟨0xB7, 0x408, 1⟩, ⟨0xB8, 0x404, 1⟩,
   ⟨0xB9, 0x454, 1⟩, ⟨0xBA, 0x407, 1⟩, ⟨0xBB, 0x457, 1⟩, ⟨0xBC, 0x409, 1⟩, ⟨0xBD, 0x459, 1⟩,
   ⟨0xBE, 0x40A, 1⟩, ⟨0xBF, 0x45A, 1⟩, ⟨0xC0, 0x458, 1⟩, ⟨0xC1, 0x405, 1⟩, ⟨0xC2, 0xAC, 1⟩,
   ⟨0xC3, 0x221A, 1⟩, ⟨0xC4, 0x192, 1⟩, ⟨0xC5, 0x2248, 1⟩, ⟨0xC6, 0x2206, 1⟩, ⟨0xC7, 0xAB, 1⟩,
   ⟨0xC8, 0xBB, 1⟩, ⟨0xC9, 0x2026, 1⟩, ⟨0xCA, 0xA0, 1⟩, ⟨0xCB, 0x40B, 1⟩, ⟨0xCC, 0x45B, 1⟩,
   ⟨0xCD, 0x40C, 1⟩, ⟨0xCE, 0x45C, 1⟩, ⟨0xCF, 0x455, 1⟩, ⟨0xD0, 0x2013, 2⟩, ⟨0xD2, 0x201C, 2⟩,
   ⟨0xD4, 0x2018, 2⟩, ⟨0xD6, 0xF7, 1⟩, ⟨0xD7, 0x201E, 1⟩, ⟨0xD8, 0x40E, 1⟩, ⟨0xD9, 0x45E, 1⟩,
   ⟨0xDA, 0x40F, 1⟩, ⟨0xDB, 0x45F, 1⟩, ⟨0xDC, 0x2116, 1⟩, ⟨0xDD, 0x401, 1⟩, ⟨0xDE, 0x451, 1⟩,
   ⟨0xDF, 0x44F, 1⟩, ⟨0xE0, 0x430, 31⟩, ⟨0xFF, 0x20AC, 1⟩]

/-- A page, by the registry's name for it.  The two forms of part 8 differ in the direction of
writing only. -/
inductive CodePage where
  | ibm866
  | iso8859Part2
  | iso8859Part3
  | iso8859Part4
  | iso8859Part5
  | iso8859Part6
  | iso8859Part7
  | iso8859Part8
  | iso8859Part8I
  | iso8859Part10
  | iso8859Part13
  | iso8859Part14
  | iso8859Part15
  | iso8859Part16
  | koi8R
  | koi8U
  | macintosh
  | windows874
  | windows1250
  | windows1251
  | windows1252
  | windows1253
  | windows1254
  | windows1255
  | windows1256
  | windows1257
  | windows1258
  | macCyrillic
deriving DecidableEq, Repr

namespace CodePage

def all : List CodePage :=
  [.ibm866, .iso8859Part2, .iso8859Part3, .iso8859Part4, .iso8859Part5, .iso8859Part6,
   .iso8859Part7, .iso8859Part8, .iso8859Part8I, .iso8859Part10, .iso8859Part13, .iso8859Part14,
   .iso8859Part15, .iso8859Part16, .koi8R, .koi8U, .macintosh, .windows874, .windows1250,
   .windows1251, .windows1252, .windows1253, .windows1254, .windows1255, .windows1256,
   .windows1257, .windows1258, .macCyrillic]

def name : CodePage → String
  | .ibm866 => "IBM866"
  | .iso8859Part2 => "ISO-8859-2"
  | .iso8859Part3 => "ISO-8859-3"
  | .iso8859Part4 => "ISO-8859-4"
  | .iso8859Part5 => "ISO-8859-5"
  | .iso8859Part6 => "ISO-8859-6"
  | .iso8859Part7 => "ISO-8859-7"
  | .iso8859Part8 => "ISO-8859-8"
  | .iso8859Part8I => "ISO-8859-8-I"
  | .iso8859Part10 => "ISO-8859-10"
  | .iso8859Part13 => "ISO-8859-13"
  | .iso8859Part14 => "ISO-8859-14"
  | .iso8859Part15 => "ISO-8859-15"
  | .iso8859Part16 => "ISO-8859-16"
  | .koi8R => "KOI8-R"
  | .koi8U => "KOI8-U"
  | .macintosh => "macintosh"
  | .windows874 => "windows-874"
  | .windows1250 => "windows-1250"
  | .windows1251 => "windows-1251"
  | .windows1252 => "windows-1252"
  | .windows1253 => "windows-1253"
  | .windows1254 => "windows-1254"
  | .windows1255 => "windows-1255"
  | .windows1256 => "windows-1256"
  | .windows1257 => "windows-1257"
  | .windows1258 => "windows-1258"
  | .macCyrillic => "x-mac-cyrillic"

def upper : CodePage → Index
  | .ibm866 => ibm866Upper
  | .iso8859Part2 => iso8859Part2Upper
  | .iso8859Part3 => iso8859Part3Upper
  | .iso8859Part4 => iso8859Part4Upper
  | .iso8859Part5 => iso8859Part5Upper
  | .iso8859Part6 => iso8859Part6Upper
  | .iso8859Part7 => iso8859Part7Upper
  | .iso8859Part8 => iso8859Part8Upper
  | .iso8859Part8I => iso8859Part8Upper
  | .iso8859Part10 => iso8859Part10Upper
  | .iso8859Part13 => iso8859Part13Upper
  | .iso8859Part14 => iso8859Part14Upper
  | .iso8859Part15 => iso8859Part15Upper
  | .iso8859Part16 => iso8859Part16Upper
  | .koi8R => koi8RUpper
  | .koi8U => koi8UUpper
  | .macintosh => macintoshUpper
  | .windows874 => windows874Upper
  | .windows1250 => windows1250Upper
  | .windows1251 => windows1251Upper
  | .windows1252 => windows1252Upper
  | .windows1253 => windows1253Upper
  | .windows1254 => windows1254Upper
  | .windows1255 => windows1255Upper
  | .windows1256 => windows1256Upper
  | .windows1257 => windows1257Upper
  | .windows1258 => windows1258Upper
  | .macCyrillic => macCyrillicUpper

end CodePage

end TemplateBuild.Encoding
