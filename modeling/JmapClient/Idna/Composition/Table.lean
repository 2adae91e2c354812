/-!
# Characters composed of two others

The tables of `Idna.Composition`, for Unicode 17 and the characters that names of hosts may have, apart
from the syllables of Hangul.
-/

namespace JmapClient.Idna.Composition

/-- Characters that join the one before them: each of them, and the code points of every character that it
joins and of what the two become, written in hexadecimal with a full stop between them. -/
def composites : List (Nat × String) := [
    (0x300, "61.e0 65.e8 69.ec 6e.1f9 6f.f2 75.f9 77.1e81 79.1ef3 e2.1ea7 ea.1ec1 f4.1ed3 fc.1dc " ++
      "103.1eb1 113.1e15 14d.1e51 1a1.1edd 1b0.1eeb 3b1.1f70 3b5.1f72 3b7.1f74 3b9.1f76 " ++
      "3bf.1f78 3c5.1f7a 3c9.1f7c 3ca.1fd2 3cb.1fe2 435.450 438.45d 1f00.1f02 1f01.1f03 " ++
      "1f10.1f12 1f11.1f13 1f20.1f22 1f21.1f23 1f30.1f32 1f31.1f33 1f40.1f42 1f41.1f43 " ++
      "1f50.1f52 1f51.1f53 1f60.1f62 1f61.1f63"),
    (0x301, "61.e1 63.107 65.e9 67.1f5 69.ed 6b.1e31 6c.13a 6d.1e3f 6e.144 6f.f3 70.1e55 72.155 " ++
      "73.15b 75.fa 77.1e83 79.fd 7a.17a e2.1ea5 e5.1fb e6.1fd e7.1e09 ea.1ebf ef.1e2f f4.1ed1 " ++
      "f5.1e4d f8.1ff fc.1d8 103.1eaf 113.1e17 14d.1e53 169.1e79 1a1.1edb 1b0.1ee9 3b1.3ac " ++
      "3b5.3ad 3b7.3ae 3b9.3af 3bf.3cc 3c5.3cd 3c9.3ce 3ca.390 3cb.3b0 433.453 43a.45c " ++
      "1f00.1f04 1f01.1f05 1f10.1f14 1f11.1f15 1f20.1f24 1f21.1f25 1f30.1f34 1f31.1f35 " ++
      "1f40.1f44 1f41.1f45 1f50.1f54 1f51.1f55 1f60.1f64 1f61.1f65"),
    (0x302, "61.e2 63.109 65.ea 67.11d 68.125 69.ee 6a.135 6f.f4 73.15d 75.fb 77.175 79.177 7a.1e91 " ++
      "1ea1.1ead 1eb9.1ec7 1ecd.1ed9"),
    (0x303, "61.e3 65.1ebd 69.129 6e.f1 6f.f5 75.169 76.1e7d 79.1ef9 e2.1eab ea.1ec5 f4.1ed7 103.1eb5 " ++
      "1a1.1ee1 1b0.1eef"),
    (0x304, "61.101 65.113 67.1e21 69.12b 6f.14d 75.16b 79.233 e4.1df e6.1e3 f5.22d f6.22b fc.1d6 " ++
      "1eb.1ed 227.1e1 22f.231 3b1.1fb1 3b9.1fd1 3c5.1fe1 438.4e3 443.4ef 1e37.1e39 1e5b.1e5d"),
    (0x306, "61.103 65.115 67.11f 69.12d 6f.14f 75.16d 229.1e1d 3b1.1fb0 3b9.1fd0 3c5.1fe0 430.4d1 " ++
      "435.4d7 436.4c2 438.439 443.45e 1ea1.1eb7"),
    (0x307, "61.227 62.1e03 63.10b 64.1e0b 65.117 66.1e1f 67.121 68.1e23 6d.1e41 6e.1e45 6f.22f " ++
      "70.1e57 72.1e59 73.1e61 74.1e6b 77.1e87 78.1e8b 79.1e8f 7a.17c 15b.1e65 161.1e67 " ++
      "1e63.1e69 105d2.105c9 105da.105e4"),
    (0x308, "61.e4 65.eb 68.1e27 69.ef 6f.f6 74.1e97 75.fc 77.1e85 78.1e8d 79.ff f5.1e4f 16b.1e7b " ++
      "3b9.3ca 3c5.3cb 430.4d3 435.451 436.4dd 437.4df 438.4e5 43e.4e7 443.4f1 447.4f5 44b.4f9 " ++
      "44d.4ed 456.457 4d9.4db 4e9.4eb"),
    (0x309, "61.1ea3 65.1ebb 69.1ec9 6f.1ecf 75.1ee7 79.1ef7 e2.1ea9 ea.1ec3 f4.1ed5 103.1eb3 " ++
      "1a1.1edf 1b0.1eed"),
    (0x30a, "61.e5 75.16f 77.1e98 79.1e99"),
    (0x30b, "6f.151 75.171 443.4f3"),
    (0x30c, "61.1ce 63.10d 64.10f 65.11b 67.1e7 68.21f 69.1d0 6a.1f0 6b.1e9 6c.13e 6e.148 6f.1d2 " ++
      "72.159 73.161 74.165 75.1d4 7a.17e fc.1da 292.1ef"),
    (0x30f, "61.201 65.205 69.209 6f.20d 72.211 75.215 475.477"),
    (0x311, "61.203 65.207 69.20b 6f.20f 72.213 75.217"),
    (0x313, "3b1.1f00 3b5.1f10 3b7.1f20 3b9.1f30 3bf.1f40 3c1.1fe4 3c5.1f50 3c9.1f60"),
    (0x314, "3b1.1f01 3b5.1f11 3b7.1f21 3b9.1f31 3bf.1f41 3c1.1fe5 3c5.1f51 3c9.1f61"),
    (0x31b, "6f.1a1 75.1b0"),
    (0x323, "61.1ea1 62.1e05 64.1e0d 65.1eb9 68.1e25 69.1ecb 6b.1e33 6c.1e37 6d.1e43 6e.1e47 6f.1ecd " ++
      "72.1e5b 73.1e63 74.1e6d 75.1ee5 76.1e7f 77.1e89 79.1ef5 7a.1e93 1a1.1ee3 1b0.1ef1"),
    (0x324, "75.1e73"),
    (0x325, "61.1e01"),
    (0x326, "73.219 74.21b"),
    (0x327, "63.e7 64.1e11 65.229 67.123 68.1e29 6b.137 6c.13c 6e.146 72.157 73.15f 74.163"),
    (0x328, "61.105 65.119 69.12f 6f.1eb 75.173"),
    (0x32d, "64.1e13 65.1e19 6c.1e3d 6e.1e4b 74.1e71 75.1e77"),
    (0x32e, "68.1e2b"),
    (0x330, "65.1e1b 69.1e2d 75.1e75"),
    (0x331, "62.1e07 64.1e0f 68.1e96 6b.1e35 6c.1e3b 6e.1e49 72.1e5f 74.1e6f 7a.1e95"),
    (0x338, "3c.226e 3d.2260 3e.226f 2190.219a 2192.219b 2194.21ae 21d0.21cd 21d2.21cf 21d4.21ce " ++
      "2203.2204 2208.2209 220b.220c 2223.2224 2225.2226 223c.2241 2243.2244 2245.2247 " ++
      "2248.2249 224d.226d 2261.2262 2264.2270 2265.2271 2272.2274 2273.2275 2276.2278 " ++
      "2277.2279 227a.2280 227b.2281 227c.22e0 227d.22e1 2282.2284 2283.2285 2286.2288 " ++
      "2287.2289 2291.22e2 2292.22e3 22a2.22ac 22a8.22ad 22a9.22ae 22ab.22af 22b2.22ea " ++
      "22b3.22eb 22b4.22ec 22b5.22ed"),
    (0x342, "3b1.1fb6 3b7.1fc6 3b9.1fd6 3c5.1fe6 3c9.1ff6 3ca.1fd7 3cb.1fe7 1f00.1f06 1f01.1f07 " ++
      "1f20.1f26 1f21.1f27 1f30.1f36 1f31.1f37 1f50.1f56 1f51.1f57 1f60.1f66 1f61.1f67"),
    (0x653, "627.622"),
    (0x654, "627.623 648.624 64a.626 6c1.6c2 6d2.6d3 6d5.6c0"),
    (0x655, "627.625"),
    (0x93c, "928.929 930.931 933.934"),
    (0x9be, "9c7.9cb"),
    (0x9d7, "9c7.9cc"),
    (0xb3e, "b47.b4b"),
    (0xb56, "b47.b48"),
    (0xb57, "b47.b4c"),
    (0xbbe, "bc6.bca bc7.bcb"),
    (0xbd7, "b92.b94 bc6.bcc"),
    (0xc56, "c46.c48"),
    (0xcc2, "cc6.cca"),
    (0xcd5, "cbf.cc0 cc6.cc7 cca.ccb"),
    (0xcd6, "cc6.cc8"),
    (0xd3e, "d46.d4a d47.d4b"),
    (0xd57, "d46.d4c"),
    (0xdca, "dd9.dda ddc.ddd"),
    (0xdcf, "dd9.ddc"),
    (0xddf, "dd9.dde"),
    (0x102e, "1025.1026"),
    (0x1b35, "1b05.1b06 1b07.1b08 1b09.1b0a 1b0b.1b0c 1b0d.1b0e 1b11.1b12 1b3a.1b3b 1b3c.1b3d " ++
      "1b3e.1b40 1b3f.1b41 1b42.1b43"),
    (0x3099, "3046.3094 304b.304c 304d.304e 304f.3050 3051.3052 3053.3054 3055.3056 3057.3058 " ++
      "3059.305a 305b.305c 305d.305e 305f.3060 3061.3062 3064.3065 3066.3067 3068.3069 " ++
      "306f.3070 3072.3073 3075.3076 3078.3079 307b.307c 309d.309e 30a6.30f4 30ab.30ac " ++
      "30ad.30ae 30af.30b0 30b1.30b2 30b3.30b4 30b5.30b6 30b7.30b8 30b9.30ba 30bb.30bc " ++
      "30bd.30be 30bf.30c0 30c1.30c2 30c4.30c5 30c6.30c7 30c8.30c9 30cf.30d0 30d2.30d3 " ++
      "30d5.30d6 30d8.30d9 30db.30dc 30ef.30f7 30f0.30f8 30f1.30f9 30f2.30fa 30fd.30fe"),
    (0x309a, "306f.3071 3072.3074 3075.3077 3078.307a 307b.307d 30cf.30d1 30d2.30d4 30d5.30d7 " ++
      "30d8.30da 30db.30dd"),
    (0x110ba, "11099.1109a 1109b.1109c 110a5.110ab"),
    (0x11127, "11131.1112e 11132.1112f"),
    (0x1133e, "11347.1134b"),
    (0x11357, "11347.1134c"),
    (0x113b8, "113c2.113c7"),
    (0x113bb, "11384.11385"),
    (0x113c2, "1138b.1138e 113c2.113c5"),
    (0x113c9, "11382.11383 11390.11391 113c2.113c8"),
    (0x114b0, "114b9.114bc"),
    (0x114ba, "114b9.114bb"),
    (0x114bd, "114b9.114be"),
    (0x115af, "115b8.115ba 115b9.115bb"),
    (0x11930, "11935.11938"),
    (0x1611e, "1611e.16121"),
    (0x1611f, "1611e.16123 16121.16126 16122.16127 16129.16124"),
    (0x16120, "1611e.16125 16121.16128"),
    (0x16129, "1611e.16122"),
    (0x16d67, "16d63.16d69 16d67.16d68 16d69.16d6a")]

/-- The combining classes other than zero, and the runs of characters of each. -/
def combiningClasses : List (Nat × List (Nat × Nat)) := [
    (1, [(0x334, 0x338), (0x1cd4, 0x1cd4), (0x1ce2, 0x1ce8), (0x20d2, 0x20d3), (0x20d8, 0x20da),
      (0x20e5, 0x20e6), (0x20ea, 0x20eb), (0x10a39, 0x10a39), (0x16af0, 0x16af4),
      (0x1bc9e, 0x1bc9e), (0x1d167, 0x1d169)]),
    (6, [(0x16ff0, 0x16ff1)]),
    (7, [(0x93c, 0x93c), (0x9bc, 0x9bc), (0xa3c, 0xa3c), (0xabc, 0xabc), (0xb3c, 0xb3c),
      (0xc3c, 0xc3c), (0xcbc, 0xcbc), (0x1037, 0x1037), (0x1b34, 0x1b34), (0x1be6, 0x1be6),
      (0x1c37, 0x1c37), (0xa9b3, 0xa9b3), (0x110ba, 0x110ba), (0x11173, 0x11173),
      (0x111ca, 0x111ca), (0x11236, 0x11236), (0x112e9, 0x112e9), (0x1133b, 0x1133c),
      (0x11446, 0x11446), (0x114c3, 0x114c3), (0x115c0, 0x115c0), (0x116b7, 0x116b7),
      (0x1183a, 0x1183a), (0x11943, 0x11943), (0x11d42, 0x11d42), (0x1e94a, 0x1e94a)]),
    (8, [(0x3099, 0x309a)]),
    (9, [(0x94d, 0x94d), (0x9cd, 0x9cd), (0xa4d, 0xa4d), (0xacd, 0xacd), (0xb4d, 0xb4d),
      (0xbcd, 0xbcd), (0xc4d, 0xc4d), (0xccd, 0xccd), (0xd3b, 0xd3c), (0xd4d, 0xd4d),
      (0xdca, 0xdca), (0xe3a, 0xe3a), (0xeba, 0xeba), (0xf84, 0xf84), (0x1039, 0x103a),
      (0x1714, 0x1715), (0x1734, 0x1734), (0x17d2, 0x17d2), (0x1a60, 0x1a60), (0x1b44, 0x1b44),
      (0x1baa, 0x1bab), (0x1bf2, 0x1bf3), (0x2d7f, 0x2d7f), (0xa806, 0xa806), (0xa82c, 0xa82c),
      (0xa8c4, 0xa8c4), (0xa953, 0xa953), (0xa9c0, 0xa9c0), (0xaaf6, 0xaaf6), (0xabed, 0xabed),
      (0x10a3f, 0x10a3f), (0x11046, 0x11046), (0x11070, 0x11070), (0x1107f, 0x1107f),
      (0x110b9, 0x110b9), (0x11133, 0x11134), (0x111c0, 0x111c0), (0x11235, 0x11235),
      (0x112ea, 0x112ea), (0x1134d, 0x1134d), (0x113ce, 0x113d0), (0x11442, 0x11442),
      (0x114c2, 0x114c2), (0x115bf, 0x115bf), (0x1163f, 0x1163f), (0x116b6, 0x116b6),
      (0x1172b, 0x1172b), (0x11839, 0x11839), (0x1193d, 0x1193e), (0x119e0, 0x119e0),
      (0x11a34, 0x11a34), (0x11a47, 0x11a47), (0x11a99, 0x11a99), (0x11c3f, 0x11c3f),
      (0x11d44, 0x11d45), (0x11d97, 0x11d97), (0x11f41, 0x11f42), (0x1612f, 0x1612f)]),
    (10, [(0x5b0, 0x5b0)]),
    (11, [(0x5b1, 0x5b1)]),
    (12, [(0x5b2, 0x5b2)]),
    (13, [(0x5b3, 0x5b3)]),
    (14, [(0x5b4, 0x5b4)]),
    (15, [(0x5b5, 0x5b5)]),
    (16, [(0x5b6, 0x5b6)]),
    (17, [(0x5b7, 0x5b7)]),
    (18, [(0x5b8, 0x5b8), (0x5c7, 0x5c7)]),
    (19, [(0x5b9, 0x5ba)]),
    (20, [(0x5bb, 0x5bb)]),
    (21, [(0x5bc, 0x5bc)]),
    (22, [(0x5bd, 0x5bd)]),
    (23, [(0x5bf, 0x5bf)]),
    (24, [(0x5c1, 0x5c1)]),
    (25, [(0x5c2, 0x5c2)]),
    (26, [(0xfb1e, 0xfb1e)]),
    (27, [(0x64b, 0x64b), (0x8f0, 0x8f0)]),
    (28, [(0x64c, 0x64c), (0x8f1, 0x8f1)]),
    (29, [(0x64d, 0x64d), (0x8f2, 0x8f2)]),
    (30, [(0x618, 0x618), (0x64e, 0x64e)]),
    (31, [(0x619, 0x619), (0x64f, 0x64f)]),
    (32, [(0x61a, 0x61a), (0x650, 0x650)]),
    (33, [(0x651, 0x651)]),
    (34, [(0x652, 0x652)]),
    (35, [(0x670, 0x670)]),
    (36, [(0x711, 0x711)]),
    (84, [(0xc55, 0xc55)]),
    (91, [(0xc56, 0xc56)]),
    (103, [(0xe38, 0xe39)]),
    (107, [(0xe48, 0xe4b)]),
    (118, [(0xeb8, 0xeb9)]),
    (122, [(0xec8, 0xecb)]),
    (129, [(0xf71, 0xf71)]),
    (130, [(0xf72, 0xf72), (0xf7a, 0xf7d), (0xf80, 0xf80)]),
    (132, [(0xf74, 0xf74)]),
    (202, [(0x321, 0x322), (0x327, 0x328), (0x1dd0, 0x1dd0)]),
    (214, [(0x1dce, 0x1dce)]),
    (216, [(0x31b, 0x31b), (0xf39, 0xf39), (0x1d165, 0x1d166), (0x1d16e, 0x1d172)]),
    (218, [(0x1dfa, 0x1dfa), (0x302a, 0x302a)]),
    (220, [(0x316, 0x319), (0x31c, 0x320), (0x323, 0x326), (0x329, 0x333), (0x339, 0x33c),
      (0x347, 0x349), (0x34d, 0x34e), (0x353, 0x356), (0x359, 0x35a), (0x591, 0x591),
      (0x596, 0x596), (0x59b, 0x59b), (0x5a2, 0x5a7), (0x5aa, 0x5aa), (0x5c5, 0x5c5),
      (0x655, 0x656), (0x65c, 0x65c), (0x65f, 0x65f), (0x6e3, 0x6e3), (0x6ea, 0x6ea),
      (0x6ed, 0x6ed), (0x731, 0x731), (0x734, 0x734), (0x737, 0x739), (0x73b, 0x73c),
      (0x73e, 0x73e), (0x742, 0x742), (0x744, 0x744), (0x746, 0x746), (0x748, 0x748),
      (0x7f2, 0x7f2), (0x7fd, 0x7fd), (0x859, 0x85b), (0x899, 0x89b), (0x8cf, 0x8d3),
      (0x8e3, 0x8e3), (0x8e6, 0x8e6), (0x8e9, 0x8e9), (0x8ed, 0x8ef), (0x8f6, 0x8f6),
      (0x8f9, 0x8fa), (0x952, 0x952), (0xf18, 0xf19), (0xf35, 0xf35), (0xf37, 0xf37),
      (0xfc6, 0xfc6), (0x108d, 0x108d), (0x193b, 0x193b), (0x1a18, 0x1a18), (0x1a7f, 0x1a7f),
      (0x1ab5, 0x1aba), (0x1abd, 0x1abd), (0x1abf, 0x1ac0), (0x1ac3, 0x1ac4), (0x1aca, 0x1aca),
      (0x1add, 0x1add), (0x1ae6, 0x1ae6), (0x1b6c, 0x1b6c), (0x1cd5, 0x1cd9), (0x1cdc, 0x1cdf),
      (0x1ced, 0x1ced), (0x1dc2, 0x1dc2), (0x1dca, 0x1dca), (0x1dcf, 0x1dcf), (0x1df9, 0x1df9),
      (0x1dfd, 0x1dfd), (0x1dff, 0x1dff), (0x20e8, 0x20e8), (0x20ec, 0x20ef), (0xa92b, 0xa92d),
      (0xaab4, 0xaab4), (0xfe27, 0xfe2d), (0x101fd, 0x101fd), (0x102e0, 0x102e0),
      (0x10a0d, 0x10a0d), (0x10a3a, 0x10a3a), (0x10ae6, 0x10ae6), (0x10efa, 0x10efb),
      (0x10efd, 0x10eff), (0x10f46, 0x10f47), (0x10f4b, 0x10f4b), (0x10f4d, 0x10f50),
      (0x10f83, 0x10f83), (0x10f85, 0x10f85), (0x1d17b, 0x1d182), (0x1d18a, 0x1d18b),
      (0x1e4ee, 0x1e4ee), (0x1e5ef, 0x1e5ef), (0x1e8d0, 0x1e8d6)]),
    (222, [(0x59a, 0x59a), (0x5ad, 0x5ad), (0x1939, 0x1939), (0x302d, 0x302d)]),
    (224, [(0x302e, 0x302f)]),
    (226, [(0x1d16d, 0x1d16d)]),
    (228, [(0x5ae, 0x5ae), (0x18a9, 0x18a9), (0x1df7, 0x1df8), (0x302b, 0x302b)]),
    (230, [(0x300, 0x314), (0x33d, 0x346), (0x34a, 0x34c), (0x350, 0x352), (0x357, 0x357),
      (0x35b, 0x35b), (0x363, 0x36f), (0x483, 0x487), (0x592, 0x595), (0x597, 0x599),
      (0x59c, 0x5a1), (0x5a8, 0x5a9), (0x5ab, 0x5ac), (0x5af, 0x5af), (0x5c4, 0x5c4),
      (0x610, 0x617), (0x653, 0x654), (0x657, 0x65b), (0x65d, 0x65e), (0x6d6, 0x6dc),
      (0x6df, 0x6e2), (0x6e4, 0x6e4), (0x6e7, 0x6e8), (0x6eb, 0x6ec), (0x730, 0x730),
      (0x732, 0x733), (0x735, 0x736), (0x73a, 0x73a), (0x73d, 0x73d), (0x73f, 0x741),
      (0x743, 0x743), (0x745, 0x745), (0x747, 0x747), (0x749, 0x74a), (0x7eb, 0x7f1),
      (0x7f3, 0x7f3), (0x816, 0x819), (0x81b, 0x823), (0x825, 0x827), (0x829, 0x82d),
      (0x897, 0x898), (0x89c, 0x89f), (0x8ca, 0x8ce), (0x8d4, 0x8e1), (0x8e4, 0x8e5),
      (0x8e7, 0x8e8), (0x8ea, 0x8ec), (0x8f3, 0x8f5), (0x8f7, 0x8f8), (0x8fb, 0x8ff),
      (0x951, 0x951), (0x953, 0x954), (0x9fe, 0x9fe), (0xf82, 0xf83), (0xf86, 0xf87),
      (0x135d, 0x135f), (0x17dd, 0x17dd), (0x193a, 0x193a), (0x1a17, 0x1a17), (0x1a75, 0x1a7c),
      (0x1ab0, 0x1ab4), (0x1abb, 0x1abc), (0x1ac1, 0x1ac2), (0x1ac5, 0x1ac9), (0x1acb, 0x1adc),
      (0x1ae0, 0x1ae5), (0x1ae7, 0x1aea), (0x1b6b, 0x1b6b), (0x1b6d, 0x1b73), (0x1cd0, 0x1cd2),
      (0x1cda, 0x1cdb), (0x1ce0, 0x1ce0), (0x1cf4, 0x1cf4), (0x1cf8, 0x1cf9), (0x1dc0, 0x1dc1),
      (0x1dc3, 0x1dc9), (0x1dcb, 0x1dcc), (0x1dd1, 0x1df5), (0x1dfb, 0x1dfb), (0x1dfe, 0x1dfe),
      (0x20d0, 0x20d1), (0x20d4, 0x20d7), (0x20db, 0x20dc), (0x20e1, 0x20e1), (0x20e7, 0x20e7),
      (0x20e9, 0x20e9), (0x20f0, 0x20f0), (0x2cef, 0x2cf1), (0x2de0, 0x2dff), (0xa66f, 0xa66f),
      (0xa674, 0xa67d), (0xa69e, 0xa69f), (0xa6f0, 0xa6f1), (0xa8e0, 0xa8f1), (0xaab0, 0xaab0),
      (0xaab2, 0xaab3), (0xaab7, 0xaab8), (0xaabe, 0xaabf), (0xaac1, 0xaac1), (0xfe20, 0xfe26),
      (0xfe2e, 0xfe2f), (0x10376, 0x1037a), (0x10a0f, 0x10a0f), (0x10a38, 0x10a38),
      (0x10ae5, 0x10ae5), (0x10d24, 0x10d27), (0x10d69, 0x10d6d), (0x10eab, 0x10eac),
      (0x10f48, 0x10f4a), (0x10f4c, 0x10f4c), (0x10f82, 0x10f82), (0x10f84, 0x10f84),
      (0x11100, 0x11102), (0x11366, 0x11374), (0x1145e, 0x1145e), (0x16b30, 0x16b36),
      (0x1d185, 0x1d189), (0x1d1aa, 0x1d1ad), (0x1d242, 0x1d244), (0x1e000, 0x1e08f),
      (0x1e130, 0x1e136), (0x1e2ae, 0x1e2ae), (0x1e2ec, 0x1e2ef), (0x1e4ef, 0x1e4ef),
      (0x1e5ee, 0x1e5ee), (0x1e6e3, 0x1e6e3), (0x1e6e6, 0x1e6e6), (0x1e6ee, 0x1e6ef),
      (0x1e6f5, 0x1e6f5), (0x1e944, 0x1e949)]),
    (232, [(0x315, 0x315), (0x31a, 0x31a), (0x358, 0x358), (0x1df6, 0x1df6), (0x302c, 0x302c),
      (0x1e4ec, 0x1e4ed)]),
    (233, [(0x35c, 0x35c), (0x35f, 0x35f), (0x362, 0x362), (0x1dfc, 0x1dfc)]),
    (234, [(0x35d, 0x35e), (0x360, 0x361), (0x1aeb, 0x1aeb), (0x1dcd, 0x1dcd)])]

end JmapClient.Idna.Composition
