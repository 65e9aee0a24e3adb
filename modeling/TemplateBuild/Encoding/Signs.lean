import TemplateBuild.Encoding.Index

/-!
# Signs of the two-byte encodings

The parts of the two-byte character sets that hold no ideographs: punctuation, signs, Latin,
Greek, Cyrillic, kana and box drawing.  The ideographs themselves, a few apart, are not held
here; their bytes count as unassigned and the characters as not representable.
-/

set_option autoImplicit false

namespace TemplateBuild.Encoding

/-- Rows 1 to 8 and row 13 of the Japanese set, 94 pointers a row. -/
def japaneseSigns : Index :=
  [⟨0x0, 0x3000, 3⟩, ⟨0x3, 0xFF0C, 1⟩, ⟨0x4, 0xFF0E, 1⟩, ⟨0x5, 0x30FB, 1⟩, ⟨0x6, 0xFF1A, 2⟩,
   ⟨0x8, 0xFF1F, 1⟩, ⟨0x9, 0xFF01, 1⟩, ⟨0xA, 0x309B, 2⟩, ⟨0xC, 0xB4, 1⟩, ⟨0xD, 0xFF40, 1⟩,
   ⟨0xE, 0xA8, 1⟩, ⟨0xF, 0xFF3E, 1⟩, ⟨0x10, 0xFFE3, 1⟩, ⟨0x11, 0xFF3F, 1⟩, ⟨0x12, 0x30FD, 2⟩,
   ⟨0x14, 0x309D, 2⟩, ⟨0x16, 0x3003, 1⟩, ⟨0x17, 0x4EDD, 1⟩, ⟨0x18, 0x3005, 3⟩, ⟨0x1B, 0x30FC, 1⟩,
   ⟨0x1C, 0x2015, 1⟩, ⟨0x1D, 0x2010, 1⟩, ⟨0x1E, 0xFF0F, 1⟩, ⟨0x1F, 0xFF3C, 1⟩, ⟨0x20, 0xFF5E, 1⟩,
   ⟨0x21, 0x2225, 1⟩, ⟨0x22, 0xFF5C, 1⟩, ⟨0x23, 0x2026, 1⟩, ⟨0x24, 0x2025, 1⟩, ⟨0x25, 0x2018, 2⟩,
   ⟨0x27, 0x201C, 2⟩, ⟨0x29, 0xFF08, 2⟩, ⟨0x2B, 0x3014, 2⟩, ⟨0x2D, 0xFF3B, 1⟩, ⟨0x2E, 0xFF3D, 1⟩,
   ⟨0x2F, 0xFF5B, 1⟩, ⟨0x30, 0xFF5D, 1⟩, ⟨0x31, 0x3008, 10⟩, ⟨0x3B, 0xFF0B, 1⟩,
   ⟨0x3C, 0xFF0D, 1⟩, ⟨0x3D, 0xB1, 1⟩, ⟨0x3E, 0xD7, 1⟩, ⟨0x3F, 0xF7, 1⟩, ⟨0x40, 0xFF1D, 1⟩,
   ⟨0x41, 0x2260, 1⟩, ⟨0x42, 0xFF1C, 1⟩, ⟨0x43, 0xFF1E, 1⟩, ⟨0x44, 0x2266, 2⟩, ⟨0x46, 0x221E, 1⟩,
   ⟨0x47, 0x2234, 1⟩, ⟨0x48, 0x2642, 1⟩, ⟨0x49, 0x2640, 1⟩, ⟨0x4A, 0xB0, 1⟩, ⟨0x4B, 0x2032, 2⟩,
   ⟨0x4D, 0x2103, 1⟩, ⟨0x4E, 0xFFE5, 1⟩, ⟨0x4F, 0xFF04, 1⟩, ⟨0x50, 0xFFE0, 2⟩, ⟨0x52, 0xFF05, 1⟩,
   ⟨0x53, 0xFF03, 1⟩, ⟨0x54, 0xFF06, 1⟩, ⟨0x55, 0xFF0A, 1⟩, ⟨0x56, 0xFF20, 1⟩, ⟨0x57, 0xA7, 1⟩,
   ⟨0x58, 0x2606, 1⟩, ⟨0x59, 0x2605, 1⟩, ⟨0x5A, 0x25CB, 1⟩, ⟨0x5B, 0x25CF, 1⟩, ⟨0x5C, 0x25CE, 1⟩,
   ⟨0x5D, 0x25C7, 1⟩, ⟨0x5E, 0x25C6, 1⟩, ⟨0x5F, 0x25A1, 1⟩, ⟨0x60, 0x25A0, 1⟩, ⟨0x61, 0x25B3, 1⟩,
   ⟨0x62, 0x25B2, 1⟩, ⟨0x63, 0x25BD, 1⟩, ⟨0x64, 0x25BC, 1⟩, ⟨0x65, 0x203B, 1⟩, ⟨0x66, 0x3012, 1⟩,
   ⟨0x67, 0x2192, 1⟩, ⟨0x68, 0x2190, 2⟩, ⟨0x6A, 0x2193, 1⟩, ⟨0x6B, 0x3013, 1⟩, ⟨0x77, 0x2208, 1⟩,
   ⟨0x78, 0x220B, 1⟩, ⟨0x79, 0x2286, 2⟩, ⟨0x7B, 0x2282, 2⟩, ⟨0x7D, 0x222A, 1⟩, ⟨0x7E, 0x2229, 1⟩,
   ⟨0x87, 0x2227, 2⟩, ⟨0x89, 0xFFE2, 1⟩, ⟨0x8A, 0x21D2, 1⟩, ⟨0x8B, 0x21D4, 1⟩, ⟨0x8C, 0x2200, 1⟩,
   ⟨0x8D, 0x2203, 1⟩, ⟨0x99, 0x2220, 1⟩, ⟨0x9A, 0x22A5, 1⟩, ⟨0x9B, 0x2312, 1⟩, ⟨0x9C, 0x2202, 1⟩,
   ⟨0x9D, 0x2207, 1⟩, ⟨0x9E, 0x2261, 1⟩, ⟨0x9F, 0x2252, 1⟩, ⟨0xA0, 0x226A, 2⟩, ⟨0xA2, 0x221A, 1⟩,
   ⟨0xA3, 0x223D, 1⟩, ⟨0xA4, 0x221D, 1⟩, ⟨0xA5, 0x2235, 1⟩, ⟨0xA6, 0x222B, 2⟩, ⟨0xAF, 0x212B, 1⟩,
   ⟨0xB0, 0x2030, 1⟩, ⟨0xB1, 0x266F, 1⟩, ⟨0xB2, 0x266D, 1⟩, ⟨0xB3, 0x266A, 1⟩, ⟨0xB4, 0x2020, 2⟩,
   ⟨0xB6, 0xB6, 1⟩, ⟨0xBB, 0x25EF, 1⟩, ⟨0xCB, 0xFF10, 10⟩, ⟨0xDC, 0xFF21, 26⟩,
   ⟨0xFC, 0xFF41, 26⟩, ⟨0x11A, 0x3041, 83⟩, ⟨0x178, 0x30A1, 86⟩, ⟨0x1D6, 0x391, 17⟩,
   ⟨0x1E7, 0x3A3, 7⟩, ⟨0x1F6, 0x3B1, 17⟩, ⟨0x207, 0x3C3, 7⟩, ⟨0x234, 0x410, 6⟩,
   ⟨0x23A, 0x401, 1⟩, ⟨0x23B, 0x416, 26⟩, ⟨0x264, 0x430, 6⟩, ⟨0x26A, 0x451, 1⟩,
   ⟨0x26B, 0x436, 26⟩, ⟨0x292, 0x2500, 1⟩, ⟨0x293, 0x2502, 1⟩, ⟨0x294, 0x250C, 1⟩,
   ⟨0x295, 0x2510, 1⟩, ⟨0x296, 0x2518, 1⟩, ⟨0x297, 0x2514, 1⟩, ⟨0x298, 0x251C, 1⟩,
   ⟨0x299, 0x252C, 1⟩, ⟨0x29A, 0x2524, 1⟩, ⟨0x29B, 0x2534, 1⟩, ⟨0x29C, 0x253C, 1⟩,
   ⟨0x29D, 0x2501, 1⟩, ⟨0x29E, 0x2503, 1⟩, ⟨0x29F, 0x250F, 1⟩, ⟨0x2A0, 0x2513, 1⟩,
   ⟨0x2A1, 0x251B, 1⟩, ⟨0x2A2, 0x2517, 1⟩, ⟨0x2A3, 0x2523, 1⟩, ⟨0x2A4, 0x2533, 1⟩,
   ⟨0x2A5, 0x252B, 1⟩, ⟨0x2A6, 0x253B, 1⟩, ⟨0x2A7, 0x254B, 1⟩, ⟨0x2A8, 0x2520, 1⟩,
   ⟨0x2A9, 0x252F, 1⟩, ⟨0x2AA, 0x2528, 1⟩, ⟨0x2AB, 0x2537, 1⟩, ⟨0x2AC, 0x253F, 1⟩,
   ⟨0x2AD, 0x251D, 1⟩, ⟨0x2AE, 0x2530, 1⟩, ⟨0x2AF, 0x2525, 1⟩, ⟨0x2B0, 0x2538, 1⟩,
   ⟨0x2B1, 0x2542, 1⟩, ⟨0x468, 0x2460, 20⟩, ⟨0x47C, 0x2160, 10⟩, ⟨0x487, 0x3349, 1⟩,
   ⟨0x488, 0x3314, 1⟩, ⟨0x489, 0x3322, 1⟩, ⟨0x48A, 0x334D, 1⟩, ⟨0x48B, 0x3318, 1⟩,
   ⟨0x48C, 0x3327, 1⟩, ⟨0x48D, 0x3303, 1⟩, ⟨0x48E, 0x3336, 1⟩, ⟨0x48F, 0x3351, 1⟩,
   ⟨0x490, 0x3357, 1⟩, ⟨0x491, 0x330D, 1⟩, ⟨0x492, 0x3326, 1⟩, ⟨0x493, 0x3323, 1⟩,
   ⟨0x494, 0x332B, 1⟩, ⟨0x495, 0x334A, 1⟩, ⟨0x496, 0x333B, 1⟩, ⟨0x497, 0x339C, 3⟩,
   ⟨0x49A, 0x338E, 2⟩, ⟨0x49C, 0x33C4, 1⟩, ⟨0x49D, 0x33A1, 1⟩, ⟨0x4A6, 0x337B, 1⟩,
   ⟨0x4A7, 0x301D, 1⟩, ⟨0x4A8, 0x301F, 1⟩, ⟨0x4A9, 0x2116, 1⟩, ⟨0x4AA, 0x33CD, 1⟩,
   ⟨0x4AB, 0x2121, 1⟩, ⟨0x4AC, 0x32A4, 5⟩, ⟨0x4B1, 0x3231, 2⟩, ⟨0x4B3, 0x3239, 1⟩,
   ⟨0x4B4, 0x337E, 1⟩, ⟨0x4B5, 0x337D, 1⟩, ⟨0x4B6, 0x337C, 1⟩, ⟨0x4B7, 0x2252, 1⟩,
   ⟨0x4B8, 0x2261, 1⟩, ⟨0x4B9, 0x222B, 1⟩, ⟨0x4BA, 0x222E, 1⟩, ⟨0x4BB, 0x2211, 1⟩,
   ⟨0x4BC, 0x221A, 1⟩, ⟨0x4BD, 0x22A5, 1⟩, ⟨0x4BE, 0x2220, 1⟩, ⟨0x4BF, 0x221F, 1⟩,
   ⟨0x4C0, 0x22BF, 1⟩, ⟨0x4C1, 0x2235, 1⟩, ⟨0x4C2, 0x2229, 2⟩]

/-- Lead bytes 0xA1 to 0xA9 of the mainland Chinese set, 190 pointers a lead byte. -/
def chineseSigns : Index :=
  [⟨0x17C0, 0xE4C6, 96⟩, ⟨0x1820, 0x3000, 3⟩, ⟨0x1823, 0xB7, 1⟩, ⟨0x1824, 0x2C9, 1⟩,
   ⟨0x1825, 0x2C7, 1⟩, ⟨0x1826, 0xA8, 1⟩, ⟨0x1827, 0x3003, 1⟩, ⟨0x1828, 0x3005, 1⟩,
   ⟨0x1829, 0x2014, 1⟩, ⟨0x182A, 0xFF5E, 1⟩, ⟨0x182B, 0x2016, 1⟩, ⟨0x182C, 0x2026, 1⟩,
   ⟨0x182D, 0x2018, 2⟩, ⟨0x182F, 0x201C, 2⟩, ⟨0x1831, 0x3014, 2⟩, ⟨0x1833, 0x3008, 8⟩,
   ⟨0x183B, 0x3016, 2⟩, ⟨0x183D, 0x3010, 2⟩, ⟨0x183F, 0xB1, 1⟩, ⟨0x1840, 0xD7, 1⟩,
   ⟨0x1841, 0xF7, 1⟩, ⟨0x1842, 0x2236, 1⟩, ⟨0x1843, 0x2227, 2⟩, ⟨0x1845, 0x2211, 1⟩,
   ⟨0x1846, 0x220F, 1⟩, ⟨0x1847, 0x222A, 1⟩, ⟨0x1848, 0x2229, 1⟩, ⟨0x1849, 0x2208, 1⟩,
   ⟨0x184A, 0x2237, 1⟩, ⟨0x184B, 0x221A, 1⟩, ⟨0x184C, 0x22A5, 1⟩, ⟨0x184D, 0x2225, 1⟩,
   ⟨0x184E, 0x2220, 1⟩, ⟨0x184F, 0x2312, 1⟩, ⟨0x1850, 0x2299, 1⟩, ⟨0x1851, 0x222B, 1⟩,
   ⟨0x1852, 0x222E, 1⟩, ⟨0x1853, 0x2261, 1⟩, ⟨0x1854, 0x224C, 1⟩, ⟨0x1855, 0x2248, 1⟩,
   ⟨0x1856, 0x223D, 1⟩, ⟨0x1857, 0x221D, 1⟩, ⟨0x1858, 0x2260, 1⟩, ⟨0x1859, 0x226E, 2⟩,
   ⟨0x185B, 0x2264, 2⟩, ⟨0x185D, 0x221E, 1⟩, ⟨0x185E, 0x2235, 1⟩, ⟨0x185F, 0x2234, 1⟩,
   ⟨0x1860, 0x2642, 1⟩, ⟨0x1861, 0x2640, 1⟩, ⟨0x1862, 0xB0, 1⟩, ⟨0x1863, 0x2032, 2⟩,
   ⟨0x1865, 0x2103, 1⟩, ⟨0x1866, 0xFF04, 1⟩, ⟨0x1867, 0xA4, 1⟩, ⟨0x1868, 0xFFE0, 2⟩,
   ⟨0x186A, 0x2030, 1⟩, ⟨0x186B, 0xA7, 1⟩, ⟨0x186C, 0x2116, 1⟩, ⟨0x186D, 0x2606, 1⟩,
   ⟨0x186E, 0x2605, 1⟩, ⟨0x186F, 0x25CB, 1⟩, ⟨0x1870, 0x25CF, 1⟩, ⟨0x1871, 0x25CE, 1⟩,
   ⟨0x1872, 0x25C7, 1⟩, ⟨0x1873, 0x25C6, 1⟩, ⟨0x1874, 0x25A1, 1⟩, ⟨0x1875, 0x25A0, 1⟩,
   ⟨0x1876, 0x25B3, 1⟩, ⟨0x1877, 0x25B2, 1⟩, ⟨0x1878, 0x203B, 1⟩, ⟨0x1879, 0x2192, 1⟩,
   ⟨0x187A, 0x2190, 2⟩, ⟨0x187C, 0x2193, 1⟩, ⟨0x187D, 0x3013, 1⟩, ⟨0x187E, 0xE526, 96⟩,
   ⟨0x18DE, 0x2170, 10⟩, ⟨0x18E8, 0xE766, 6⟩, ⟨0x18EE, 0x2488, 20⟩, ⟨0x1902, 0x2474, 20⟩,
   ⟨0x1916, 0x2460, 10⟩, ⟨0x1920, 0x20AC, 1⟩, ⟨0x1921, 0xE76D, 1⟩, ⟨0x1922, 0x3220, 10⟩,
   ⟨0x192C, 0xE76E, 2⟩, ⟨0x192E, 0x2160, 12⟩, ⟨0x193A, 0xE770, 2⟩, ⟨0x193C, 0xE586, 95⟩,
   ⟨0x199B, 0x3000, 1⟩, ⟨0x199C, 0xFF01, 3⟩, ⟨0x199F, 0xFFE5, 1⟩, ⟨0x19A0, 0xFF05, 89⟩,
   ⟨0x19F9, 0xFFE3, 1⟩, ⟨0x19FA, 0xE5E6, 96⟩, ⟨0x1A5A, 0x3041, 83⟩, ⟨0x1AAD, 0xE772, 11⟩,
   ⟨0x1AB8, 0xE646, 96⟩, ⟨0x1B18, 0x30A1, 86⟩, ⟨0x1B6E, 0xE77D, 8⟩, ⟨0x1B76, 0xE6A6, 96⟩,
   ⟨0x1BD6, 0x391, 17⟩, ⟨0x1BE7, 0x3A3, 7⟩, ⟨0x1BEE, 0xE785, 8⟩, ⟨0x1BF6, 0x3B1, 17⟩,
   ⟨0x1C07, 0x3C3, 7⟩, ⟨0x1C0E, 0xFE10, 1⟩, ⟨0x1C0F, 0xFE12, 1⟩, ⟨0x1C10, 0xFE11, 1⟩,
   ⟨0x1C11, 0xFE13, 4⟩, ⟨0x1C15, 0xFE35, 2⟩, ⟨0x1C17, 0xFE39, 2⟩, ⟨0x1C19, 0xFE3F, 2⟩,
   ⟨0x1C1B, 0xFE3D, 2⟩, ⟨0x1C1D, 0xFE41, 4⟩, ⟨0x1C21, 0xFE17, 2⟩, ⟨0x1C23, 0xFE3B, 2⟩,
   ⟨0x1C25, 0xFE37, 2⟩, ⟨0x1C27, 0xFE31, 1⟩, ⟨0x1C28, 0xFE19, 1⟩, ⟨0x1C29, 0xFE33, 2⟩,
   ⟨0x1C2B, 0xE797, 9⟩, ⟨0x1C34, 0xE706, 96⟩, ⟨0x1C94, 0x410, 6⟩, ⟨0x1C9A, 0x401, 1⟩,
   ⟨0x1C9B, 0x416, 26⟩, ⟨0x1CB5, 0xE7A0, 15⟩, ⟨0x1CC4, 0x430, 6⟩, ⟨0x1CCA, 0x451, 1⟩,
   ⟨0x1CCB, 0x436, 26⟩, ⟨0x1CE5, 0xE7AF, 13⟩, ⟨0x1CF2, 0x2CA, 2⟩, ⟨0x1CF4, 0x2D9, 1⟩,
   ⟨0x1CF5, 0x2013, 1⟩, ⟨0x1CF6, 0x2015, 1⟩, ⟨0x1CF7, 0x2025, 1⟩, ⟨0x1CF8, 0x2035, 1⟩,
   ⟨0x1CF9, 0x2105, 1⟩, ⟨0x1CFA, 0x2109, 1⟩, ⟨0x1CFB, 0x2196, 4⟩, ⟨0x1CFF, 0x2215, 1⟩,
   ⟨0x1D00, 0x221F, 1⟩, ⟨0x1D01, 0x2223, 1⟩, ⟨0x1D02, 0x2252, 1⟩, ⟨0x1D03, 0x2266, 2⟩,
   ⟨0x1D05, 0x22BF, 1⟩, ⟨0x1D06, 0x2550, 36⟩, ⟨0x1D2A, 0x2581, 15⟩, ⟨0x1D39, 0x2593, 3⟩,
   ⟨0x1D3C, 0x25BC, 2⟩, ⟨0x1D3E, 0x25E2, 4⟩, ⟨0x1D42, 0x2609, 1⟩, ⟨0x1D43, 0x2295, 1⟩,
   ⟨0x1D44, 0x3012, 1⟩, ⟨0x1D45, 0x301D, 2⟩, ⟨0x1D47, 0xE7BC, 11⟩, ⟨0x1D52, 0x101, 1⟩,
   ⟨0x1D53, 0xE1, 1⟩, ⟨0x1D54, 0x1CE, 1⟩, ⟨0x1D55, 0xE0, 1⟩, ⟨0x1D56, 0x113, 1⟩,
   ⟨0x1D57, 0xE9, 1⟩, ⟨0x1D58, 0x11B, 1⟩, ⟨0x1D59, 0xE8, 1⟩, ⟨0x1D5A, 0x12B, 1⟩,
   ⟨0x1D5B, 0xED, 1⟩, ⟨0x1D5C, 0x1D0, 1⟩, ⟨0x1D5D, 0xEC, 1⟩, ⟨0x1D5E, 0x14D, 1⟩,
   ⟨0x1D5F, 0xF3, 1⟩, ⟨0x1D60, 0x1D2, 1⟩, ⟨0x1D61, 0xF2, 1⟩, ⟨0x1D62, 0x16B, 1⟩,
   ⟨0x1D63, 0xFA, 1⟩, ⟨0x1D64, 0x1D4, 1⟩, ⟨0x1D65, 0xF9, 1⟩, ⟨0x1D66, 0x1D6, 1⟩,
   ⟨0x1D67, 0x1D8, 1⟩, ⟨0x1D68, 0x1DA, 1⟩, ⟨0x1D69, 0x1DC, 1⟩, ⟨0x1D6A, 0xFC, 1⟩,
   ⟨0x1D6B, 0xEA, 1⟩, ⟨0x1D6C, 0x251, 1⟩, ⟨0x1D6D, 0x1E3F, 1⟩, ⟨0x1D6E, 0x144, 1⟩,
   ⟨0x1D6F, 0x148, 1⟩, ⟨0x1D70, 0x1F9, 1⟩, ⟨0x1D71, 0x261, 1⟩, ⟨0x1D72, 0xE7C9, 4⟩,
   ⟨0x1D76, 0x3105, 37⟩, ⟨0x1D9B, 0xE7CD, 21⟩, ⟨0x1DB0, 0x3021, 9⟩, ⟨0x1DB9, 0x32A3, 1⟩,
   ⟨0x1DBA, 0x338E, 2⟩, ⟨0x1DBC, 0x339C, 3⟩, ⟨0x1DBF, 0x33A1, 1⟩, ⟨0x1DC0, 0x33C4, 1⟩,
   ⟨0x1DC1, 0x33CE, 1⟩, ⟨0x1DC2, 0x33D1, 2⟩, ⟨0x1DC4, 0x33D5, 1⟩, ⟨0x1DC5, 0xFE30, 1⟩,
   ⟨0x1DC6, 0xFFE2, 1⟩, ⟨0x1DC7, 0xFFE4, 1⟩, ⟨0x1DC8, 0xE7E2, 1⟩, ⟨0x1DC9, 0x2121, 1⟩,
   ⟨0x1DCA, 0x3231, 1⟩, ⟨0x1DCB, 0xE7E3, 1⟩, ⟨0x1DCC, 0x2010, 1⟩, ⟨0x1DCD, 0xE7E4, 3⟩,
   ⟨0x1DD0, 0x30FC, 1⟩, ⟨0x1DD1, 0x309B, 2⟩, ⟨0x1DD3, 0x30FD, 2⟩, ⟨0x1DD5, 0x3006, 1⟩,
   ⟨0x1DD6, 0x309D, 2⟩, ⟨0x1DD8, 0xFE49, 10⟩, ⟨0x1DE2, 0xFE54, 4⟩, ⟨0x1DE6, 0xFE59, 14⟩,
   ⟨0x1DF4, 0xFE68, 4⟩, ⟨0x1DF8, 0x303E, 1⟩, ⟨0x1DF9, 0x2FF0, 12⟩, ⟨0x1E05, 0x3007, 1⟩,
   ⟨0x1E06, 0xE7F4, 13⟩, ⟨0x1E13, 0x2500, 76⟩, ⟨0x1E5F, 0xE801, 15⟩]

/-- The user-defined rows of the mainland Chinese set, and the ideographs next to them that have
replaced private code points. -/
def chinesePrivate : Index :=
  [⟨0x1ECE, 0xE000, 94⟩, ⟨0x1F8C, 0xE05E, 94⟩, ⟨0x204A, 0xE0BC, 94⟩, ⟨0x2108, 0xE11A, 94⟩,
   ⟨0x21C6, 0xE178, 94⟩, ⟨0x2284, 0xE1D6, 94⟩, ⟨0x58B2, 0xE234, 94⟩, ⟨0x5970, 0xE292, 94⟩,
   ⟨0x5A2E, 0xE2F0, 94⟩, ⟨0x5AEC, 0xE34E, 94⟩, ⟨0x5BAA, 0xE3AC, 94⟩, ⟨0x5C68, 0xE40A, 94⟩,
   ⟨0x5CDF, 0x9FB4, 1⟩, ⟨0x5CE7, 0x9FB5, 1⟩, ⟨0x5CEC, 0x9FB6, 2⟩, ⟨0x5CF3, 0x9FB8, 1⟩,
   ⟨0x5D04, 0x9FB9, 1⟩, ⟨0x5D15, 0x9FBA, 1⟩, ⟨0x5D25, 0x9FBB, 1⟩, ⟨0x5D26, 0xE468, 94⟩]

/-- Private code points that used to stand for characters which have their own code
point by now.  They are still written, and no longer read. -/
def chineseReassigned : Index :=
  [⟨0x1C0E, 0xE78D, 7⟩, ⟨0x1C21, 0xE794, 2⟩, ⟨0x1C28, 0xE796, 1⟩, ⟨0x5CDF, 0xE81E, 1⟩,
   ⟨0x5CE7, 0xE826, 1⟩, ⟨0x5CEC, 0xE82B, 2⟩, ⟨0x5CF3, 0xE832, 1⟩, ⟨0x5D04, 0xE843, 1⟩,
   ⟨0x5D15, 0xE854, 1⟩, ⟨0x5D25, 0xE864, 1⟩]

/-- Lead bytes 0xA1 to 0xAC of the Korean set, 190 pointers a lead byte. -/
def koreanSigns : Index :=
  [⟨0x1820, 0x3000, 3⟩, ⟨0x1823, 0xB7, 1⟩, ⟨0x1824, 0x2025, 2⟩, ⟨0x1826, 0xA8, 1⟩,
   ⟨0x1827, 0x3003, 1⟩, ⟨0x1828, 0xAD, 1⟩, ⟨0x1829, 0x2015, 1⟩, ⟨0x182A, 0x2225, 1⟩,
   ⟨0x182B, 0xFF3C, 1⟩, ⟨0x182C, 0x223C, 1⟩, ⟨0x182D, 0x2018, 2⟩, ⟨0x182F, 0x201C, 2⟩,
   ⟨0x1831, 0x3014, 2⟩, ⟨0x1833, 0x3008, 10⟩, ⟨0x183D, 0xB1, 1⟩, ⟨0x183E, 0xD7, 1⟩,
   ⟨0x183F, 0xF7, 1⟩, ⟨0x1840, 0x2260, 1⟩, ⟨0x1841, 0x2264, 2⟩, ⟨0x1843, 0x221E, 1⟩,
   ⟨0x1844, 0x2234, 1⟩, ⟨0x1845, 0xB0, 1⟩, ⟨0x1846, 0x2032, 2⟩, ⟨0x1848, 0x2103, 1⟩,
   ⟨0x1849, 0x212B, 1⟩, ⟨0x184A, 0xFFE0, 2⟩, ⟨0x184C, 0xFFE5, 1⟩, ⟨0x184D, 0x2642, 1⟩,
   ⟨0x184E, 0x2640, 1⟩, ⟨0x184F, 0x2220, 1⟩, ⟨0x1850, 0x22A5, 1⟩, ⟨0x1851, 0x2312, 1⟩,
   ⟨0x1852, 0x2202, 1⟩, ⟨0x1853, 0x2207, 1⟩, ⟨0x1854, 0x2261, 1⟩, ⟨0x1855, 0x2252, 1⟩,
   ⟨0x1856, 0xA7, 1⟩, ⟨0x1857, 0x203B, 1⟩, ⟨0x1858, 0x2606, 1⟩, ⟨0x1859, 0x2605, 1⟩,
   ⟨0x185A, 0x25CB, 1⟩, ⟨0x185B, 0x25CF, 1⟩, ⟨0x185C, 0x25CE, 1⟩, ⟨0x185D, 0x25C7, 1⟩,
   ⟨0x185E, 0x25C6, 1⟩, ⟨0x185F, 0x25A1, 1⟩, ⟨0x1860, 0x25A0, 1⟩, ⟨0x1861, 0x25B3, 1⟩,
   ⟨0x1862, 0x25B2, 1⟩, ⟨0x1863, 0x25BD, 1⟩, ⟨0x1864, 0x25BC, 1⟩, ⟨0x1865, 0x2192, 1⟩,
   ⟨0x1866, 0x2190, 2⟩, ⟨0x1868, 0x2193, 2⟩, ⟨0x186A, 0x3013, 1⟩, ⟨0x186B, 0x226A, 2⟩,
   ⟨0x186D, 0x221A, 1⟩, ⟨0x186E, 0x223D, 1⟩, ⟨0x186F, 0x221D, 1⟩, ⟨0x1870, 0x2235, 1⟩,
   ⟨0x1871, 0x222B, 2⟩, ⟨0x1873, 0x2208, 1⟩, ⟨0x1874, 0x220B, 1⟩, ⟨0x1875, 0x2286, 2⟩,
   ⟨0x1877, 0x2282, 2⟩, ⟨0x1879, 0x222A, 1⟩, ⟨0x187A, 0x2229, 1⟩, ⟨0x187B, 0x2227, 2⟩,
   ⟨0x187D, 0xFFE2, 1⟩, ⟨0x18DE, 0x21D2, 1⟩, ⟨0x18DF, 0x21D4, 1⟩, ⟨0x18E0, 0x2200, 1⟩,
   ⟨0x18E1, 0x2203, 1⟩, ⟨0x18E2, 0xB4, 1⟩, ⟨0x18E3, 0xFF5E, 1⟩, ⟨0x18E4, 0x2C7, 1⟩,
   ⟨0x18E5, 0x2D8, 1⟩, ⟨0x18E6, 0x2DD, 1⟩, ⟨0x18E7, 0x2DA, 1⟩, ⟨0x18E8, 0x2D9, 1⟩,
   ⟨0x18E9, 0xB8, 1⟩, ⟨0x18EA, 0x2DB, 1⟩, ⟨0x18EB, 0xA1, 1⟩, ⟨0x18EC, 0xBF, 1⟩,
   ⟨0x18ED, 0x2D0, 1⟩, ⟨0x18EE, 0x222E, 1⟩, ⟨0x18EF, 0x2211, 1⟩, ⟨0x18F0, 0x220F, 1⟩,
   ⟨0x18F1, 0xA4, 1⟩, ⟨0x18F2, 0x2109, 1⟩, ⟨0x18F3, 0x2030, 1⟩, ⟨0x18F4, 0x25C1, 1⟩,
   ⟨0x18F5, 0x25C0, 1⟩, ⟨0x18F6, 0x25B7, 1⟩, ⟨0x18F7, 0x25B6, 1⟩, ⟨0x18F8, 0x2664, 1⟩,
   ⟨0x18F9, 0x2660, 2⟩, ⟨0x18FB, 0x2665, 1⟩, ⟨0x18FC, 0x2667, 1⟩, ⟨0x18FD, 0x2663, 1⟩,
   ⟨0x18FE, 0x2299, 1⟩, ⟨0x18FF, 0x25C8, 1⟩, ⟨0x1900, 0x25A3, 1⟩, ⟨0x1901, 0x25D0, 2⟩,
   ⟨0x1903, 0x2592, 1⟩, ⟨0x1904, 0x25A4, 2⟩, ⟨0x1906, 0x25A8, 1⟩, ⟨0x1907, 0x25A7, 1⟩,
   ⟨0x1908, 0x25A6, 1⟩, ⟨0x1909, 0x25A9, 1⟩, ⟨0x190A, 0x2668, 1⟩, ⟨0x190B, 0x260F, 1⟩,
   ⟨0x190C, 0x260E, 1⟩, ⟨0x190D, 0x261C, 1⟩, ⟨0x190E, 0x261E, 1⟩, ⟨0x190F, 0xB6, 1⟩,
   ⟨0x1910, 0x2020, 2⟩, ⟨0x1912, 0x2195, 1⟩, ⟨0x1913, 0x2197, 1⟩, ⟨0x1914, 0x2199, 1⟩,
   ⟨0x1915, 0x2196, 1⟩, ⟨0x1916, 0x2198, 1⟩, ⟨0x1917, 0x266D, 1⟩, ⟨0x1918, 0x2669, 2⟩,
   ⟨0x191A, 0x266C, 1⟩, ⟨0x191B, 0x327F, 1⟩, ⟨0x191C, 0x321C, 1⟩, ⟨0x191D, 0x2116, 1⟩,
   ⟨0x191E, 0x33C7, 1⟩, ⟨0x191F, 0x2122, 1⟩, ⟨0x1920, 0x33C2, 1⟩, ⟨0x1921, 0x33D8, 1⟩,
   ⟨0x1922, 0x2121, 1⟩, ⟨0x1923, 0x20AC, 1⟩, ⟨0x1924, 0xAE, 1⟩, ⟨0x199C, 0xFF01, 59⟩,
   ⟨0x19D7, 0xFFE6, 1⟩, ⟨0x19D8, 0xFF3D, 33⟩, ⟨0x19F9, 0xFFE3, 1⟩, ⟨0x1A5A, 0x3131, 94⟩,
   ⟨0x1B18, 0x2170, 10⟩, ⟨0x1B27, 0x2160, 10⟩, ⟨0x1B38, 0x391, 17⟩, ⟨0x1B49, 0x3A3, 7⟩,
   ⟨0x1B58, 0x3B1, 17⟩, ⟨0x1B69, 0x3C3, 7⟩, ⟨0x1BD6, 0x2500, 1⟩, ⟨0x1BD7, 0x2502, 1⟩,
   ⟨0x1BD8, 0x250C, 1⟩, ⟨0x1BD9, 0x2510, 1⟩, ⟨0x1BDA, 0x2518, 1⟩, ⟨0x1BDB, 0x2514, 1⟩,
   ⟨0x1BDC, 0x251C, 1⟩, ⟨0x1BDD, 0x252C, 1⟩, ⟨0x1BDE, 0x2524, 1⟩, ⟨0x1BDF, 0x2534, 1⟩,
   ⟨0x1BE0, 0x253C, 1⟩, ⟨0x1BE1, 0x2501, 1⟩, ⟨0x1BE2, 0x2503, 1⟩, ⟨0x1BE3, 0x250F, 1⟩,
   ⟨0x1BE4, 0x2513, 1⟩, ⟨0x1BE5, 0x251B, 1⟩, ⟨0x1BE6, 0x2517, 1⟩, ⟨0x1BE7, 0x2523, 1⟩,
   ⟨0x1BE8, 0x2533, 1⟩, ⟨0x1BE9, 0x252B, 1⟩, ⟨0x1BEA, 0x253B, 1⟩, ⟨0x1BEB, 0x254B, 1⟩,
   ⟨0x1BEC, 0x2520, 1⟩, ⟨0x1BED, 0x252F, 1⟩, ⟨0x1BEE, 0x2528, 1⟩, ⟨0x1BEF, 0x2537, 1⟩,
   ⟨0x1BF0, 0x253F, 1⟩, ⟨0x1BF1, 0x251D, 1⟩, ⟨0x1BF2, 0x2530, 1⟩, ⟨0x1BF3, 0x2525, 1⟩,
   ⟨0x1BF4, 0x2538, 1⟩, ⟨0x1BF5, 0x2542, 1⟩, ⟨0x1BF6, 0x2512, 1⟩, ⟨0x1BF7, 0x2511, 1⟩,
   ⟨0x1BF8, 0x251A, 1⟩, ⟨0x1BF9, 0x2519, 1⟩, ⟨0x1BFA, 0x2516, 1⟩, ⟨0x1BFB, 0x2515, 1⟩,
   ⟨0x1BFC, 0x250E, 1⟩, ⟨0x1BFD, 0x250D, 1⟩, ⟨0x1BFE, 0x251E, 2⟩, ⟨0x1C00, 0x2521, 2⟩,
   ⟨0x1C02, 0x2526, 2⟩, ⟨0x1C04, 0x2529, 2⟩, ⟨0x1C06, 0x252D, 2⟩, ⟨0x1C08, 0x2531, 2⟩,
   ⟨0x1C0A, 0x2535, 2⟩, ⟨0x1C0C, 0x2539, 2⟩, ⟨0x1C0E, 0x253D, 2⟩, ⟨0x1C10, 0x2540, 2⟩,
   ⟨0x1C12, 0x2543, 8⟩, ⟨0x1C94, 0x3395, 3⟩, ⟨0x1C97, 0x2113, 1⟩, ⟨0x1C98, 0x3398, 1⟩,
   ⟨0x1C99, 0x33C4, 1⟩, ⟨0x1C9A, 0x33A3, 4⟩, ⟨0x1C9E, 0x3399, 10⟩, ⟨0x1CA8, 0x33CA, 1⟩,
   ⟨0x1CA9, 0x338D, 3⟩, ⟨0x1CAC, 0x33CF, 1⟩, ⟨0x1CAD, 0x3388, 2⟩, ⟨0x1CAF, 0x33C8, 1⟩,
   ⟨0x1CB0, 0x33A7, 2⟩, ⟨0x1CB2, 0x33B0, 10⟩, ⟨0x1CBC, 0x3380, 5⟩, ⟨0x1CC1, 0x33BA, 6⟩,
   ⟨0x1CC7, 0x3390, 5⟩, ⟨0x1CCC, 0x2126, 1⟩, ⟨0x1CCD, 0x33C0, 2⟩, ⟨0x1CCF, 0x338A, 3⟩,
   ⟨0x1CD2, 0x33D6, 1⟩, ⟨0x1CD3, 0x33C5, 1⟩, ⟨0x1CD4, 0x33AD, 3⟩, ⟨0x1CD7, 0x33DB, 1⟩,
   ⟨0x1CD8, 0x33A9, 4⟩, ⟨0x1CDC, 0x33DD, 1⟩, ⟨0x1CDD, 0x33D0, 1⟩, ⟨0x1CDE, 0x33D3, 1⟩,
   ⟨0x1CDF, 0x33C3, 1⟩, ⟨0x1CE0, 0x33C9, 1⟩, ⟨0x1CE1, 0x33DC, 1⟩, ⟨0x1CE2, 0x33C6, 1⟩,
   ⟨0x1D52, 0xC6, 1⟩, ⟨0x1D53, 0xD0, 1⟩, ⟨0x1D54, 0xAA, 1⟩, ⟨0x1D55, 0x126, 1⟩,
   ⟨0x1D57, 0x132, 1⟩, ⟨0x1D59, 0x13F, 1⟩, ⟨0x1D5A, 0x141, 1⟩, ⟨0x1D5B, 0xD8, 1⟩,
   ⟨0x1D5C, 0x152, 1⟩, ⟨0x1D5D, 0xBA, 1⟩, ⟨0x1D5E, 0xDE, 1⟩, ⟨0x1D5F, 0x166, 1⟩,
   ⟨0x1D60, 0x14A, 1⟩, ⟨0x1D62, 0x3260, 28⟩, ⟨0x1D7E, 0x24D0, 26⟩, ⟨0x1D98, 0x2460, 15⟩,
   ⟨0x1DA7, 0xBD, 1⟩, ⟨0x1DA8, 0x2153, 2⟩, ⟨0x1DAA, 0xBC, 1⟩, ⟨0x1DAB, 0xBE, 1⟩,
   ⟨0x1DAC, 0x215B, 4⟩, ⟨0x1E10, 0xE6, 1⟩, ⟨0x1E11, 0x111, 1⟩, ⟨0x1E12, 0xF0, 1⟩,
   ⟨0x1E13, 0x127, 1⟩, ⟨0x1E14, 0x131, 1⟩, ⟨0x1E15, 0x133, 1⟩, ⟨0x1E16, 0x138, 1⟩,
   ⟨0x1E17, 0x140, 1⟩, ⟨0x1E18, 0x142, 1⟩, ⟨0x1E19, 0xF8, 1⟩, ⟨0x1E1A, 0x153, 1⟩,
   ⟨0x1E1B, 0xDF, 1⟩, ⟨0x1E1C, 0xFE, 1⟩, ⟨0x1E1D, 0x167, 1⟩, ⟨0x1E1E, 0x14B, 1⟩,
   ⟨0x1E1F, 0x149, 1⟩, ⟨0x1E20, 0x3200, 28⟩, ⟨0x1E3C, 0x249C, 26⟩, ⟨0x1E56, 0x2474, 15⟩,
   ⟨0x1E65, 0xB9, 1⟩, ⟨0x1E66, 0xB2, 2⟩, ⟨0x1E68, 0x2074, 1⟩, ⟨0x1E69, 0x207F, 1⟩,
   ⟨0x1E6A, 0x2081, 4⟩, ⟨0x1ECE, 0x3041, 83⟩, ⟨0x1F8C, 0x30A1, 86⟩, ⟨0x204A, 0x410, 6⟩,
   ⟨0x2050, 0x401, 1⟩, ⟨0x2051, 0x416, 26⟩, ⟨0x207A, 0x430, 6⟩, ⟨0x2080, 0x451, 1⟩,
   ⟨0x2081, 0x436, 26⟩]

/-- Lead bytes 0xA1 to 0xA3 of the traditional Chinese set, 157 pointers a lead byte. -/
def taiwaneseSigns : Index :=
  [⟨0x13A0, 0x3000, 1⟩, ⟨0x13A1, 0xFF0C, 1⟩, ⟨0x13A2, 0x3001, 2⟩, ⟨0x13A4, 0xFF0E, 1⟩,
   ⟨0x13A5, 0x2027, 1⟩, ⟨0x13A6, 0xFF1B, 1⟩, ⟨0x13A7, 0xFF1A, 1⟩, ⟨0x13A8, 0xFF1F, 1⟩,
   ⟨0x13A9, 0xFF01, 1⟩, ⟨0x13AA, 0xFE30, 1⟩, ⟨0x13AB, 0x2026, 1⟩, ⟨0x13AC, 0x2025, 1⟩,
   ⟨0x13AD, 0xFE50, 3⟩, ⟨0x13B0, 0xB7, 1⟩, ⟨0x13B1, 0xFE54, 4⟩, ⟨0x13B5, 0xFF5C, 1⟩,
   ⟨0x13B6, 0x2013, 1⟩, ⟨0x13B7, 0xFE31, 1⟩, ⟨0x13B8, 0x2014, 1⟩, ⟨0x13B9, 0xFE33, 1⟩,
   ⟨0x13BA, 0x2574, 1⟩, ⟨0x13BB, 0xFE34, 1⟩, ⟨0x13BC, 0xFE4F, 1⟩, ⟨0x13BD, 0xFF08, 2⟩,
   ⟨0x13BF, 0xFE35, 2⟩, ⟨0x13C1, 0xFF5B, 1⟩, ⟨0x13C2, 0xFF5D, 1⟩, ⟨0x13C3, 0xFE37, 2⟩,
   ⟨0x13C5, 0x3014, 2⟩, ⟨0x13C7, 0xFE39, 2⟩, ⟨0x13C9, 0x3010, 2⟩, ⟨0x13CB, 0xFE3B, 2⟩,
   ⟨0x13CD, 0x300A, 2⟩, ⟨0x13CF, 0xFE3D, 2⟩, ⟨0x13D1, 0x3008, 2⟩, ⟨0x13D3, 0xFE3F, 2⟩,
   ⟨0x13D5, 0x300C, 2⟩, ⟨0x13D7, 0xFE41, 2⟩, ⟨0x13D9, 0x300E, 2⟩, ⟨0x13DB, 0xFE43, 2⟩,
   ⟨0x13DD, 0xFE59, 6⟩, ⟨0x13E3, 0x2018, 2⟩, ⟨0x13E5, 0x201C, 2⟩, ⟨0x13E7, 0x301D, 2⟩,
   ⟨0x13E9, 0x2035, 1⟩, ⟨0x13EA, 0x2032, 1⟩, ⟨0x13EB, 0xFF03, 1⟩, ⟨0x13EC, 0xFF06, 1⟩,
   ⟨0x13ED, 0xFF0A, 1⟩, ⟨0x13EE, 0x203B, 1⟩, ⟨0x13EF, 0xA7, 1⟩, ⟨0x13F0, 0x3003, 1⟩,
   ⟨0x13F1, 0x25CB, 1⟩, ⟨0x13F2, 0x25CF, 1⟩, ⟨0x13F3, 0x25B3, 1⟩, ⟨0x13F4, 0x25B2, 1⟩,
   ⟨0x13F5, 0x25CE, 1⟩, ⟨0x13F6, 0x2606, 1⟩, ⟨0x13F7, 0x2605, 1⟩, ⟨0x13F8, 0x25C7, 1⟩,
   ⟨0x13F9, 0x25C6, 1⟩, ⟨0x13FA, 0x25A1, 1⟩, ⟨0x13FB, 0x25A0, 1⟩, ⟨0x13FC, 0x25BD, 1⟩,
   ⟨0x13FD, 0x25BC, 1⟩, ⟨0x13FE, 0x32A3, 1⟩, ⟨0x13FF, 0x2105, 1⟩, ⟨0x1400, 0xAF, 1⟩,
   ⟨0x1401, 0xFFE3, 1⟩, ⟨0x1402, 0xFF3F, 1⟩, ⟨0x1403, 0x2CD, 1⟩, ⟨0x1404, 0xFE49, 2⟩,
   ⟨0x1406, 0xFE4D, 2⟩, ⟨0x1408, 0xFE4B, 2⟩, ⟨0x140A, 0xFE5F, 3⟩, ⟨0x140D, 0xFF0B, 1⟩,
   ⟨0x140E, 0xFF0D, 1⟩, ⟨0x140F, 0xD7, 1⟩, ⟨0x1410, 0xF7, 1⟩, ⟨0x1411, 0xB1, 1⟩,
   ⟨0x1412, 0x221A, 1⟩, ⟨0x1413, 0xFF1C, 1⟩, ⟨0x1414, 0xFF1E, 1⟩, ⟨0x1415, 0xFF1D, 1⟩,
   ⟨0x1416, 0x2266, 2⟩, ⟨0x1418, 0x2260, 1⟩, ⟨0x1419, 0x221E, 1⟩, ⟨0x141A, 0x2252, 1⟩,
   ⟨0x141B, 0x2261, 1⟩, ⟨0x141C, 0xFE62, 5⟩, ⟨0x1421, 0xFF5E, 1⟩, ⟨0x1422, 0x2229, 2⟩,
   ⟨0x1424, 0x22A5, 1⟩, ⟨0x1425, 0x2220, 1⟩, ⟨0x1426, 0x221F, 1⟩, ⟨0x1427, 0x22BF, 1⟩,
   ⟨0x1428, 0x33D2, 1⟩, ⟨0x1429, 0x33D1, 1⟩, ⟨0x142A, 0x222B, 1⟩, ⟨0x142B, 0x222E, 1⟩,
   ⟨0x142C, 0x2235, 1⟩, ⟨0x142D, 0x2234, 1⟩, ⟨0x142E, 0x2640, 1⟩, ⟨0x142F, 0x2642, 1⟩,
   ⟨0x1430, 0x2295, 1⟩, ⟨0x1431, 0x2299, 1⟩, ⟨0x1432, 0x2191, 1⟩, ⟨0x1433, 0x2193, 1⟩,
   ⟨0x1434, 0x2190, 1⟩, ⟨0x1435, 0x2192, 1⟩, ⟨0x1436, 0x2196, 2⟩, ⟨0x1438, 0x2199, 1⟩,
   ⟨0x1439, 0x2198, 1⟩, ⟨0x143A, 0x2225, 1⟩, ⟨0x143B, 0x2223, 1⟩, ⟨0x143C, 0xFF0F, 1⟩,
   ⟨0x143D, 0xFF3C, 1⟩, ⟨0x143E, 0x2215, 1⟩, ⟨0x143F, 0xFE68, 1⟩, ⟨0x1440, 0xFF04, 1⟩,
   ⟨0x1441, 0xFFE5, 1⟩, ⟨0x1442, 0x3012, 1⟩, ⟨0x1443, 0xFFE0, 2⟩, ⟨0x1445, 0xFF05, 1⟩,
   ⟨0x1446, 0xFF20, 1⟩, ⟨0x1447, 0x2103, 1⟩, ⟨0x1448, 0x2109, 1⟩, ⟨0x1449, 0xFE69, 3⟩,
   ⟨0x144C, 0x33D5, 1⟩, ⟨0x144D, 0x339C, 3⟩, ⟨0x1450, 0x33CE, 1⟩, ⟨0x1451, 0x33A1, 1⟩,
   ⟨0x1452, 0x338E, 2⟩, ⟨0x1454, 0x33C4, 1⟩, ⟨0x1455, 0xB0, 1⟩, ⟨0x1456, 0x5159, 1⟩,
   ⟨0x1457, 0x515B, 1⟩, ⟨0x1458, 0x515E, 1⟩, ⟨0x1459, 0x515D, 1⟩, ⟨0x145A, 0x5161, 1⟩,
   ⟨0x145B, 0x5163, 1⟩, ⟨0x145C, 0x55E7, 1⟩, ⟨0x145D, 0x74E9, 1⟩, ⟨0x145E, 0x7CCE, 1⟩,
   ⟨0x145F, 0x2581, 8⟩, ⟨0x1467, 0x258F, 1⟩, ⟨0x1468, 0x258E, 1⟩, ⟨0x1469, 0x258D, 1⟩,
   ⟨0x146A, 0x258C, 1⟩, ⟨0x146B, 0x258B, 1⟩, ⟨0x146C, 0x258A, 1⟩, ⟨0x146D, 0x2589, 1⟩,
   ⟨0x146E, 0x253C, 1⟩, ⟨0x146F, 0x2534, 1⟩, ⟨0x1470, 0x252C, 1⟩, ⟨0x1471, 0x2524, 1⟩,
   ⟨0x1472, 0x251C, 1⟩, ⟨0x1473, 0x2594, 1⟩, ⟨0x1474, 0x2500, 1⟩, ⟨0x1475, 0x2502, 1⟩,
   ⟨0x1476, 0x2595, 1⟩, ⟨0x1477, 0x250C, 1⟩, ⟨0x1478, 0x2510, 1⟩, ⟨0x1479, 0x2514, 1⟩,
   ⟨0x147A, 0x2518, 1⟩, ⟨0x147B, 0x256D, 2⟩, ⟨0x147D, 0x2570, 1⟩, ⟨0x147E, 0x256F, 1⟩,
   ⟨0x147F, 0x2550, 1⟩, ⟨0x1480, 0x255E, 1⟩, ⟨0x1481, 0x256A, 1⟩, ⟨0x1482, 0x2561, 1⟩,
   ⟨0x1483, 0x25E2, 2⟩, ⟨0x1485, 0x25E5, 1⟩, ⟨0x1486, 0x25E4, 1⟩, ⟨0x1487, 0x2571, 3⟩,
   ⟨0x148A, 0xFF10, 10⟩, ⟨0x1494, 0x2160, 10⟩, ⟨0x149E, 0x3021, 9⟩, ⟨0x14A7, 0x5341, 1⟩,
   ⟨0x14A8, 0x5344, 2⟩, ⟨0x14AA, 0xFF21, 26⟩, ⟨0x14C4, 0xFF41, 26⟩, ⟨0x14DE, 0x391, 17⟩,
   ⟨0x14EF, 0x3A3, 7⟩, ⟨0x14F6, 0x3B1, 17⟩, ⟨0x1507, 0x3C3, 7⟩, ⟨0x150E, 0x3105, 37⟩,
   ⟨0x1533, 0x2D9, 1⟩, ⟨0x1534, 0x2C9, 2⟩, ⟨0x1536, 0x2C7, 1⟩, ⟨0x1537, 0x2CB, 1⟩,
   ⟨0x1559, 0x20AC, 1⟩]

/-- Box drawing at the end of the traditional Chinese set. -/
def taiwaneseBoxes : Index :=
  [⟨0x4A13, 0x2554, 1⟩, ⟨0x4A14, 0x2566, 1⟩, ⟨0x4A15, 0x2557, 1⟩, ⟨0x4A16, 0x2560, 1⟩,
   ⟨0x4A17, 0x256C, 1⟩, ⟨0x4A18, 0x2563, 1⟩, ⟨0x4A19, 0x255A, 1⟩, ⟨0x4A1A, 0x2569, 1⟩,
   ⟨0x4A1B, 0x255D, 1⟩, ⟨0x4A1C, 0x2552, 1⟩, ⟨0x4A1D, 0x2564, 1⟩, ⟨0x4A1E, 0x2555, 1⟩,
   ⟨0x4A1F, 0x255E, 1⟩, ⟨0x4A20, 0x256A, 1⟩, ⟨0x4A21, 0x2561, 1⟩, ⟨0x4A22, 0x2558, 1⟩,
   ⟨0x4A23, 0x2567, 1⟩, ⟨0x4A24, 0x255B, 1⟩, ⟨0x4A25, 0x2553, 1⟩, ⟨0x4A26, 0x2565, 1⟩,
   ⟨0x4A27, 0x2556, 1⟩, ⟨0x4A28, 0x255F, 1⟩, ⟨0x4A29, 0x256B, 1⟩, ⟨0x4A2A, 0x2562, 1⟩,
   ⟨0x4A2B, 0x2559, 1⟩, ⟨0x4A2C, 0x2568, 1⟩, ⟨0x4A2D, 0x255C, 1⟩, ⟨0x4A2E, 0x2551, 1⟩,
   ⟨0x4A2F, 0x2550, 1⟩, ⟨0x4A30, 0x256D, 2⟩, ⟨0x4A32, 0x2570, 1⟩, ⟨0x4A33, 0x256F, 1⟩,
   ⟨0x4A34, 0x2593, 1⟩]

/-- Full-width forms of the half-width katakana, by their distance from U+FF61. -/
def katakanaWidened : Index :=
  [⟨0x0, 0x3002, 1⟩, ⟨0x1, 0x300C, 2⟩, ⟨0x3, 0x3001, 1⟩, ⟨0x4, 0x30FB, 1⟩, ⟨0x5, 0x30F2, 1⟩,
   ⟨0x6, 0x30A1, 1⟩, ⟨0x7, 0x30A3, 1⟩, ⟨0x8, 0x30A5, 1⟩, ⟨0x9, 0x30A7, 1⟩, ⟨0xA, 0x30A9, 1⟩,
   ⟨0xB, 0x30E3, 1⟩, ⟨0xC, 0x30E5, 1⟩, ⟨0xD, 0x30E7, 1⟩, ⟨0xE, 0x30C3, 1⟩, ⟨0xF, 0x30FC, 1⟩,
   ⟨0x10, 0x30A2, 1⟩, ⟨0x11, 0x30A4, 1⟩, ⟨0x12, 0x30A6, 1⟩, ⟨0x13, 0x30A8, 1⟩, ⟨0x14, 0x30AA, 2⟩,
   ⟨0x16, 0x30AD, 1⟩, ⟨0x17, 0x30AF, 1⟩, ⟨0x18, 0x30B1, 1⟩, ⟨0x19, 0x30B3, 1⟩, ⟨0x1A, 0x30B5, 1⟩,
   ⟨0x1B, 0x30B7, 1⟩, ⟨0x1C, 0x30B9, 1⟩, ⟨0x1D, 0x30BB, 1⟩, ⟨0x1E, 0x30BD, 1⟩, ⟨0x1F, 0x30BF, 1⟩,
   ⟨0x20, 0x30C1, 1⟩, ⟨0x21, 0x30C4, 1⟩, ⟨0x22, 0x30C6, 1⟩, ⟨0x23, 0x30C8, 1⟩, ⟨0x24, 0x30CA, 6⟩,
   ⟨0x2A, 0x30D2, 1⟩, ⟨0x2B, 0x30D5, 1⟩, ⟨0x2C, 0x30D8, 1⟩, ⟨0x2D, 0x30DB, 1⟩, ⟨0x2E, 0x30DE, 5⟩,
   ⟨0x33, 0x30E4, 1⟩, ⟨0x34, 0x30E6, 1⟩, ⟨0x35, 0x30E8, 6⟩, ⟨0x3B, 0x30EF, 1⟩, ⟨0x3C, 0x30F3, 1⟩,
   ⟨0x3D, 0x309B, 2⟩]

end TemplateBuild.Encoding
