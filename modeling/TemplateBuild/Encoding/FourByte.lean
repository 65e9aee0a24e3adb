import TemplateBuild.Encoding.Index

/-!
# Four-byte sequences

Every code point without a place in the two-byte part of the mainland Chinese set has a
four-byte sequence, assigned in order.  The last run covers all planes above the first.
-/

set_option autoImplicit false

namespace TemplateBuild.Encoding

def fourByteIndex : Index :=
  [⟨0x0, 0x80, 36⟩, ⟨0x24, 0xA5, 2⟩, ⟨0x26, 0xA9, 7⟩, ⟨0x2D, 0xB2, 5⟩, ⟨0x32, 0xB8, 31⟩,
   ⟨0x51, 0xD8, 8⟩, ⟨0x59, 0xE2, 6⟩, ⟨0x5F, 0xEB, 1⟩, ⟨0x60, 0xEE, 4⟩, ⟨0x64, 0xF4, 3⟩,
   ⟨0x67, 0xF8, 1⟩, ⟨0x68, 0xFB, 1⟩, ⟨0x69, 0xFD, 4⟩, ⟨0x6D, 0x102, 17⟩, ⟨0x7E, 0x114, 7⟩,
   ⟨0x85, 0x11C, 15⟩, ⟨0x94, 0x12C, 24⟩, ⟨0xAC, 0x145, 3⟩, ⟨0xAF, 0x149, 4⟩, ⟨0xB3, 0x14E, 29⟩,
   ⟨0xD0, 0x16C, 98⟩, ⟨0x132, 0x1CF, 1⟩, ⟨0x133, 0x1D1, 1⟩, ⟨0x134, 0x1D3, 1⟩, ⟨0x135, 0x1D5, 1⟩,
   ⟨0x136, 0x1D7, 1⟩, ⟨0x137, 0x1D9, 1⟩, ⟨0x138, 0x1DB, 1⟩, ⟨0x139, 0x1DD, 28⟩,
   ⟨0x155, 0x1FA, 87⟩, ⟨0x1AC, 0x252, 15⟩, ⟨0x1BB, 0x262, 101⟩, ⟨0x220, 0x2C8, 1⟩,
   ⟨0x221, 0x2CC, 13⟩, ⟨0x22E, 0x2DA, 183⟩, ⟨0x2E5, 0x3A2, 1⟩, ⟨0x2E6, 0x3AA, 7⟩,
   ⟨0x2ED, 0x3C2, 1⟩, ⟨0x2EE, 0x3CA, 55⟩, ⟨0x325, 0x402, 14⟩, ⟨0x333, 0x450, 1⟩,
   ⟨0x334, 0x452, 6637⟩, ⟨0x1D21, 0xE7C7, 1⟩, ⟨0x1D22, 0x1E40, 464⟩, ⟨0x1EF2, 0x2011, 2⟩,
   ⟨0x1EF4, 0x2017, 1⟩, ⟨0x1EF5, 0x201A, 2⟩, ⟨0x1EF7, 0x201E, 7⟩, ⟨0x1EFE, 0x2027, 9⟩,
   ⟨0x1F07, 0x2031, 1⟩, ⟨0x1F08, 0x2034, 1⟩, ⟨0x1F09, 0x2036, 5⟩, ⟨0x1F0E, 0x203C, 112⟩,
   ⟨0x1F7E, 0x20AD, 86⟩, ⟨0x1FD4, 0x2104, 1⟩, ⟨0x1FD5, 0x2106, 3⟩, ⟨0x1FD8, 0x210A, 12⟩,
   ⟨0x1FE4, 0x2117, 10⟩, ⟨0x1FEE, 0x2122, 62⟩, ⟨0x202C, 0x216C, 4⟩, ⟨0x2030, 0x217A, 22⟩,
   ⟨0x2046, 0x2194, 2⟩, ⟨0x2048, 0x219A, 110⟩, ⟨0x20B6, 0x2209, 6⟩, ⟨0x20BC, 0x2210, 1⟩,
   ⟨0x20BD, 0x2212, 3⟩, ⟨0x20C0, 0x2216, 4⟩, ⟨0x20C4, 0x221B, 2⟩, ⟨0x20C6, 0x2221, 2⟩,
   ⟨0x20C8, 0x2224, 1⟩, ⟨0x20C9, 0x2226, 1⟩, ⟨0x20CA, 0x222C, 2⟩, ⟨0x20CC, 0x222F, 5⟩,
   ⟨0x20D1, 0x2238, 5⟩, ⟨0x20D6, 0x223E, 10⟩, ⟨0x20E0, 0x2249, 3⟩, ⟨0x20E3, 0x224D, 5⟩,
   ⟨0x20E8, 0x2253, 13⟩, ⟨0x20F5, 0x2262, 2⟩, ⟨0x20F7, 0x2268, 6⟩, ⟨0x20FD, 0x2270, 37⟩,
   ⟨0x2122, 0x2296, 3⟩, ⟨0x2125, 0x229A, 11⟩, ⟨0x2130, 0x22A6, 25⟩, ⟨0x2149, 0x22C0, 82⟩,
   ⟨0x219B, 0x2313, 333⟩, ⟨0x22E8, 0x246A, 10⟩, ⟨0x22F2, 0x249C, 100⟩, ⟨0x2356, 0x254C, 4⟩,
   ⟨0x235A, 0x2574, 13⟩, ⟨0x2367, 0x2590, 3⟩, ⟨0x236A, 0x2596, 10⟩, ⟨0x2374, 0x25A2, 16⟩,
   ⟨0x2384, 0x25B4, 8⟩, ⟨0x238C, 0x25BE, 8⟩, ⟨0x2394, 0x25C8, 3⟩, ⟨0x2397, 0x25CC, 2⟩,
   ⟨0x2399, 0x25D0, 18⟩, ⟨0x23AB, 0x25E6, 31⟩, ⟨0x23CA, 0x2607, 2⟩, ⟨0x23CC, 0x260A, 54⟩,
   ⟨0x2402, 0x2641, 1⟩, ⟨0x2403, 0x2643, 2110⟩, ⟨0x2C41, 0x2E82, 2⟩, ⟨0x2C43, 0x2E85, 3⟩,
   ⟨0x2C46, 0x2E89, 2⟩, ⟨0x2C48, 0x2E8D, 10⟩, ⟨0x2C52, 0x2E98, 15⟩, ⟨0x2C61, 0x2EA8, 2⟩,
   ⟨0x2C63, 0x2EAB, 3⟩, ⟨0x2C66, 0x2EAF, 4⟩, ⟨0x2C6A, 0x2EB4, 2⟩, ⟨0x2C6C, 0x2EB8, 3⟩,
   ⟨0x2C6F, 0x2EBC, 14⟩, ⟨0x2C7D, 0x2ECB, 293⟩, ⟨0x2DA2, 0x2FFC, 4⟩, ⟨0x2DA6, 0x3004, 1⟩,
   ⟨0x2DA7, 0x3018, 5⟩, ⟨0x2DAC, 0x301F, 2⟩, ⟨0x2DAE, 0x302A, 20⟩, ⟨0x2DC2, 0x303F, 2⟩,
   ⟨0x2DC4, 0x3094, 7⟩, ⟨0x2DCB, 0x309F, 2⟩, ⟨0x2DCD, 0x30F7, 5⟩, ⟨0x2DD2, 0x30FF, 6⟩,
   ⟨0x2DD8, 0x312A, 246⟩, ⟨0x2ECE, 0x322A, 7⟩, ⟨0x2ED5, 0x3232, 113⟩, ⟨0x2F46, 0x32A4, 234⟩,
   ⟨0x3030, 0x3390, 12⟩, ⟨0x303C, 0x339F, 2⟩, ⟨0x303E, 0x33A2, 34⟩, ⟨0x3060, 0x33C5, 9⟩,
   ⟨0x3069, 0x33CF, 2⟩, ⟨0x306B, 0x33D3, 2⟩, ⟨0x306D, 0x33D6, 113⟩, ⟨0x30DE, 0x3448, 43⟩,
   ⟨0x3109, 0x3474, 298⟩, ⟨0x3233, 0x359F, 111⟩, ⟨0x32A2, 0x360F, 11⟩, ⟨0x32AD, 0x361B, 765⟩,
   ⟨0x35AA, 0x3919, 85⟩, ⟨0x35FF, 0x396F, 96⟩, ⟨0x365F, 0x39D1, 14⟩, ⟨0x366D, 0x39E0, 147⟩,
   ⟨0x3700, 0x3A74, 218⟩, ⟨0x37DA, 0x3B4F, 287⟩, ⟨0x38F9, 0x3C6F, 113⟩, ⟨0x396A, 0x3CE1, 885⟩,
   ⟨0x3CDF, 0x4057, 264⟩, ⟨0x3DE7, 0x4160, 471⟩, ⟨0x3FBE, 0x4338, 116⟩, ⟨0x4032, 0x43AD, 4⟩,
   ⟨0x4036, 0x43B2, 43⟩, ⟨0x4061, 0x43DE, 248⟩, ⟨0x4159, 0x44D7, 373⟩, ⟨0x42CE, 0x464D, 20⟩,
   ⟨0x42E2, 0x4662, 193⟩, ⟨0x43A3, 0x4724, 5⟩, ⟨0x43A8, 0x472A, 82⟩, ⟨0x43FA, 0x477D, 16⟩,
   ⟨0x440A, 0x478E, 441⟩, ⟨0x45C3, 0x4948, 50⟩, ⟨0x45F5, 0x497B, 2⟩, ⟨0x45F7, 0x497E, 4⟩,
   ⟨0x45FB, 0x4984, 1⟩, ⟨0x45FC, 0x4987, 20⟩, ⟨0x4610, 0x499C, 3⟩, ⟨0x4613, 0x49A0, 22⟩,
   ⟨0x4629, 0x49B8, 703⟩, ⟨0x48E8, 0x4C78, 39⟩, ⟨0x490F, 0x4CA4, 111⟩, ⟨0x497E, 0x4D1A, 148⟩,
   ⟨0x4A12, 0x4DAF, 81⟩, ⟨0x4A63, 0x9FA6, 14426⟩, ⟨0x82BD, 0xE76C, 1⟩, ⟨0x82BE, 0xE7C8, 1⟩,
   ⟨0x82BF, 0xE7E7, 13⟩, ⟨0x82CC, 0xE815, 1⟩, ⟨0x82CD, 0xE819, 5⟩, ⟨0x82D2, 0xE81F, 7⟩,
   ⟨0x82D9, 0xE827, 4⟩, ⟨0x82DD, 0xE82D, 4⟩, ⟨0x82E1, 0xE833, 8⟩, ⟨0x82E9, 0xE83C, 7⟩,
   ⟨0x82F0, 0xE844, 16⟩, ⟨0x8300, 0xE856, 14⟩, ⟨0x830E, 0xE865, 4295⟩, ⟨0x93D5, 0xF92D, 76⟩,
   ⟨0x9421, 0xF97A, 27⟩, ⟨0x943C, 0xF996, 81⟩, ⟨0x948D, 0xF9E8, 9⟩, ⟨0x9496, 0xF9F2, 26⟩,
   ⟨0x94B0, 0xFA10, 1⟩, ⟨0x94B1, 0xFA12, 1⟩, ⟨0x94B2, 0xFA15, 3⟩, ⟨0x94B5, 0xFA19, 6⟩,
   ⟨0x94BB, 0xFA22, 1⟩, ⟨0x94BC, 0xFA25, 2⟩, ⟨0x94BE, 0xFA2A, 1030⟩, ⟨0x98C4, 0xFE32, 1⟩,
   ⟨0x98C5, 0xFE45, 4⟩, ⟨0x98C9, 0xFE53, 1⟩, ⟨0x98CA, 0xFE58, 1⟩, ⟨0x98CB, 0xFE67, 1⟩,
   ⟨0x98CC, 0xFE6C, 149⟩, ⟨0x9961, 0xFF5F, 129⟩, ⟨0x99E2, 0xFFE6, 26⟩,
   ⟨0x2E248, 0x10000, 1048576⟩]

end TemplateBuild.Encoding
