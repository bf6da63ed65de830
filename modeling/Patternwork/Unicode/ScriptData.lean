namespace Patternwork.Unicode

def scriptNames : List String :=
  ["adlm adlam",
   "aghb caucasianalbanian",
   "ahom",
   "arab arabic",
   "armi imperialaramaic",
   "armn armenian",
   "avst avestan",
   "bali balinese",
   "bamu bamum",
   "bass bassavah",
   "batk batak",
   "beng bengali",
   "bhks bhaiksuki",
   "bopo bopomofo",
   "brah brahmi",
   "brai braille",
   "bugi buginese",
   "buhd buhid",
   "cakm chakma",
   "cans canadianaboriginal",
   "cari carian",
   "cham",
   "cher cherokee",
   "chrs chorasmian",
   "copt coptic qaac",
   "cpmn cyprominoan",
   "cprt cypriot",
   "cyrl cyrillic",
   "deva devanagari",
   "diak divesakuru",
   "dogr dogra",
   "dsrt deseret",
   "dupl duployan",
   "egyp egyptianhieroglyphs",
   "elba elbasan",
   "elym elymaic",
   "ethi ethiopic",
   "geor georgian",
   "glag glagolitic",
   "gong gunjalagondi",
   "gonm masaramgondi",
   "goth gothic",
   "gran grantha",
   "grek greek",
   "gujr gujarati",
   "guru gurmukhi",
   "hang hangul",
   "hani han",
   "hano hanunoo",
   "hatr hatran",
   "hebr hebrew",
   "hira hiragana",
   "hluw anatolianhieroglyphs",
   "hmng pahawhhmong",
   "hmnp nyiakengpuachuehmong",
   "",
   "hung oldhungarian",
   "ital olditalic",
   "java javanese",
   "kali kayahli",
   "kana katakana",
   "kawi",
   "khar kharoshthi",
   "khmr khmer",
   "khoj khojki",
   "kits khitansmallscript",
   "knda kannada",
   "kthi kaithi",
   "lana taitham",
   "laoo lao",
   "latn latin",
   "lepc lepcha",
   "limb limbu",
   "lina lineara",
   "linb linearb",
   "lisu",
   "lyci lycian",
   "lydi lydian",
   "mahj mahajani",
   "maka makasar",
   "mand mandaic",
   "mani manichaean",
   "marc marchen",
   "medf medefaidrin",
   "mend mendekikakui",
   "merc meroiticcursive",
   "mero meroitichieroglyphs",
   "mlym malayalam",
   "modi",
   "mong mongolian",
   "mroo mro",
   "mtei meeteimayek",
   "mult multani",
   "mymr myanmar",
   "nagm nagmundari",
   "nand nandinagari",
   "narb oldnortharabian",
   "nbat nabataean",
   "newa",
   "nkoo nko",
   "nshu nushu",
   "ogam ogham",
   "olck olchiki",
   "orkh oldturkic",
   "orya oriya",
   "osge osage",
   "osma osmanya",
   "ougr olduyghur",
   "palm palmyrene",
   "pauc paucinhau",
   "perm oldpermic",
   "phag phagspa",
   "phli inscriptionalpahlavi",
   "phlp psalterpahlavi",
   "phnx phoenician",
   "plrd miao",
   "prti inscriptionalparthian",
   "rjng rejang",
   "rohg hanifirohingya",
   "runr runic",
   "samr samaritan",
   "sarb oldsoutharabian",
   "saur saurashtra",
   "sgnw signwriting",
   "shaw shavian",
   "shrd sharada",
   "sidd siddham",
   "sind khudawadi",
   "sinh sinhala",
   "sogd sogdian",
   "sogo oldsogdian",
   "sora sorasompeng",
   "soyo soyombo",
   "sund sundanese",
   "sylo sylotinagri",
   "syrc syriac",
   "tagb tagbanwa",
   "takr takri",
   "tale taile",
   "talu newtailue",
   "taml tamil",
   "tang tangut",
   "tavt taiviet",
   "telu telugu",
   "tfng tifinagh",
   "tglg tagalog",
   "thaa thaana",
   "thai",
   "tibt tibetan",
   "tirh tirhuta",
   "tnsa tangsa",
   "toto",
   "ugar ugaritic",
   "vaii vai",
   "vith vithkuqi",
   "wara warangciti",
   "wcho wancho",
   "xpeo oldpersian",
   "xsux cuneiform",
   "yezi yezidi",
   "yiii yi",
   "zanb zanabazarsquare",
   "zinh inherited qaai",
   "zyyy common",
   "zzzz unknown"]

def scriptRuns : List String :=
  ["A5D2B2G+5DG2G+5D1P2GB5DP2GB5DF2GX5DB2G;5DB2GeB5D1H2GF5DFNC5DU5C3Q1LE5DB1LD5EC1LE5DB1LB5E",
   "E1LB5DB1LB5DB1LD5EB1LB5EB1LU5EB1L1;YO1LQ*4F5CC*5J5EBF1G5ECF1S5ECFD5EB1S1X5EI1S*5EE1SG5EL",
   "DF5DBDG5DBDO5DBDD5DBD1A5DBDK5CLD+5CBD3M5DBD1C4HO5EB4H1=5EC4HDD1Q4S1S5EO3D1*5EC3DD3Y1O5EC",
   "3YP5EB2Q=5EC2QB5EB4HL5EFD;5EBDC5EGD2K5DBD.=2R5CE=P5DC=+LE5EBLI5ECLC5ECLW5EBLH5EBLB5EDLE5",
   "ECLJ5ECLC5ECLE5EILB5EELC5EBLF5ECLZ5EC1ND5EB1NG5EE1NC5EC1NW5EB1NH5EB1NC5EB1NC5EB1NC5EC1NB",
   "5EB1NF5EE1NC5EC1ND5ED1NB5EH1NE5EB1NB5EH1NR5EK1MD5EB1MJ5EB1MD5EB1MW5EB1MH5EB1MC5EB1MF5EC1",
   "MK5EB1MD5EB1MD5EC1MB5EP1ME5EC1MM5EH1MH5EB3ID5EB3II5EC3IC5EC3IW5EB3IH5EB3IC5EB3IF5EC3IJ5E",
   "C3IC5EC3ID5EH3ID5EE3IC5EB3IF5EC3IS5EK4MC5EB4MG5ED4MD5EB4ME5ED4MC5EB4MB5EB4MC5ED4MC5ED4MD",
   "5ED4MM5EE4MF5ED4MD5EB4ME5EC4MB5EG4MB5EO4MV5EF4PN5EB4PD5EB4PX5EB4PQ5EC4PJ5EB4PD5EB4PE5EH4",
   "PC5EB4PD5EC4PB5EC4PE5EC4PK5EH4PJ2CN5EB2CD5EB2CX5EB2CK5EB2CF5EC2CJ5EB2CD5EB2CE5EH2CC5EG2C",
   "C5EB2CE5EC2CK5EB2CD5EM2XN5EB2XD5EB2X1T5EB2XD5EB2XG5EE2XQ5EC2X+5EB4AD5EB4AS5ED4AY5EB4AJ5E",
   "B4AB5EC4AH5ED4AB5EE4AG5EB4AB5EB4AI5EG4AK5EC4AD5EM4T1+5EE5DB4T=5E1F2FC5EB2FB5EB2FF5EB2FY5",
   "EB2FB5EB2FX5EC2FF5EB2FB5EB2FH5EB2FK5EC2FE5E1A4U2I5EB4U1E5EE4U1H5EB4U1E5EB4UP5EB4UH5DE4UC",
   "5E1F2.5A1F1G5EB1FB5EF1FB5EC1F1L5DB1FE1O8A1E2J5EB1EE5EC1EH5EB1EB5EB1EE5EC1E1J5EB1EE5EC1E1",
   "B5EB1EE5EC1EH5EB1EB5EB1EE5EC1EP5EB1E1Z5EB1EE5EC1E2D5EC1E1A5ED1E+5EGW2W5ECWG5ECTkA3F.5ED3",
   "X2L5DD3XL5EH4RW5EJ4RB1QV5DC5EJRU5EM4IN5EB4ID5EB4IC5EM1;2:5EC1;K5EG1;K5EG2ZC5DC2ZB5DB2ZU5",
   "EG2Z2Z5EH2Z1L5EFT2G5EK2I;5EB2IM5EE2IM5EE2IB5ED2IM4K:5EC4KF5EL4L1M5EE4L+5EG4LL5ED4LC1;1AQ",
   "=5ECQC2E1;5EB2E.5EC2EL5EG2EK5EG2EO5EC5C;5E1RH2N5EDH1P5EB4F2AK1U5EIKE2H1Y5ED2HP5ED2HD3G1Q",
   "*J5EH1F1L5EC1FD4FI5EI5CD5DB5CN5DB5CH5DE5CB5DG5CB5DD5CC5DB5EF2G1G1LF*B2G1R1LF2GE1LF2GN*B2",
   "G2G1LB5C2A2G8A1LW5EC1LG5EC1L1G5EC1LG5EC1LI5EB1LB5EB1LB5EB1LB5EB1L;5EC1L1V5EB1LP5EB1LO5EC",
   "1LG5EB1LT5EC1LD5EB1LJ5EB5DM5CC5D2X5EB5DL2GB5EC5DL2GB5DP5EB2GN5ED5D1B5EP5C1B5EP5D1G1LB5DD",
   "2GC5DG2GB5D*2GB5DR2G1J5DD5EE5DkX5EZ5DL5EV5DtAP8A5DjU5EC5D1A5EB5D3J1G3A2G1AY3U5EFYH1F1G5E",
   "B1FB5EF1FB5EC4Q1Y5EH4QC5EO4QB1EX5EJ1EH5EB1EH5EB1EH5EB1EH5EB1EH5EB1EH5EB1EH5EB1EH5EB*1A5D",
   "2:5E1C1P+5EB1P2Z5EM1P6W5E+5DM5EE5DF1PB5DB1PB5DZ1PJ5CE1OC5DI1PE5DE5EB1T2W5EC5CC5DC1TD5DB1",
   "=2+5DC1=D5EFN1L5EB1O2:5EB5DQN1A5D1E5EM1=Q1O;5EB5D2A1O;5D2R1=1P5DB1=2Y5D5I1P6eA5D2A1PkgA5",
   "A14N5ED5A1X5EJ2L1Q4Z9M5EU*3AI2Y5EI5D1C2G3G5DD2G2A5EF2GC5EB2GB5EB2GF5EY2GO4G1N5ED5DK5EG3P",
   "1Y5EI3+2G5EI3+M5EG=1A1*1O5DB1*B3V1E5EL3VB1O.5ED1+2O5EB5DB1+K5EE1+C2.;5EBV1X5EJVO5ECVK5EC",
   "VE2.1A4O2D5EY4OF2*X5EK1EG5EC1EG5EC1EG5EJ1EH5EB1EH5EB2G1L5DB2GJ1LB2GE5DC5EEW2Q2*1O5EC2*K5",
   "EG1OatE5EM1OX5EE1O1R5E88E1PbO5EC1P3K5E1G2GH5EMFF5EF1S+5EB1SF5EB1SB5EB1SC5EB1SC5EB1SKD3T5",
   "EQDbL5DCD2Q5ECD1W5EHDB5E1ADQ5CQ5DK5EG5CO*C5D1D5EB5DT5EB5DE5EEDF5EBD4H5EC5DB5EB5D1A2G+5DG",
   "2G+5DL1=K5DB1=1N5DC1O;5ED1OG5EC1OG5EC1OG5EC1OD5ED5DH5EB5DH5EK5DF5EC2KM5EB2K+5EB2KT5EB2KC",
   "5EB2KP5EC2KO5E1C2K3*5EF5DD5EE5D1N5ED5DJ1L2P5EB5DN5ED1LB5E1P5D1N5CB5E4C2M.5EDU1R5EP5CB5D*",
   "5EE1Z1E5EJ1ZD1J*5EF3O1L5EF4Y:5EB4YB4.1E5EE4.O5E1K;2Q3=1Q3K:5EC3KK5EG3J1E5EE3J1E5EE1C1I5E",
   "IB1U5ELBB4+L5EB4+P5EB4+H5EB4+C5EB4+L5EB4+P5EB4+H5EB4+C5E2D2J9X5EJ2JW5EK2JI5EY2GG5EB2G1K5",
   "EB2GJ5E2F+G5EC+B5EB+1M5EB+C5ED+B5EC+BEW5EBEJ3M1A3B;5EI3BJ5E1Q1RT5EB1RC5EF1RF3S=5ED3SB2N+",
   "5EF2NB5E2A2W1A2VY5EE2VU5EC2V1O1:E5EB1:C5EF1:I5EB1:D5EB1:.5EC1:D5EE1:K5EH1:J5EH3Z1A3A1A5E",
   "1A2R1H5EE2RM5EJG1W5EDGH3UW5EC3UI3QT5EF3QI3RS5EH3RE5EM3RH5E2Q3H2J5E1X1Y1T5EN1Y1T5EH1YG3W1",
   "I5EI3WK5E9GD;5EB4;1K5EB4;D5EC4;C5E2LDD4C1I5EI4B1K5EW3L+5E1GX=5EU1DX5EJO2O5EEO1E5EJOB2D2D",
   "5EK2DB5EC4DZ5EH4DK5EGS1V5EBSS5EI2O1H5EJ3.3A5EB4AU5EL2AS5EB2A1P5E1:2=H5EB2=B5EB2=E5EB2=P5",
   "EB2=L5EG3;1*5EF3;K5EG1KE5EB1KI5EC1KC5EC1KW5EB1KH5EB1KC5EB1KF5EB5CB1KJ5EC1KC5EC1KD5EC1KB5",
   "EG1KB5EF1KH5EC1KH5ED1KF5E4L3C2=5EB3CF5E:4V2I5EI4VK5E5G3:1W5EC3:1G5E1C2Y2F5EL2YK5EG2ZN5ET",
   "4J1+5EG4JK5E1WC*5ECCP5EECX5E5Z:1=5E3E4*2T5EM4*B.H5EC.B5EC.I5EB.C5EB.:5EB.C5EC.M5EJ.K5E2G",
   "2;I5EC2;1O5EC2;L5E*5B2I5EI4E2T5ENTQ3N1Z5EH=K5E7WMJ5EBM1N5EBMO5EKM.5ED2S1A5EC2SW5EB2SO5E2",
   "J1IH5EB1IC5EB1I1M5ED1IB5EB1IC5EB1IJ5EI1IK5EG1HG5EB1HC5EB1H1F5EB1HC5EB1HG5EH1HK5E9W2PZ5EH",
   "1.R5EB1.1J5ED1.=5E2W2LB5EP4M1S5EN4MB4:s+5E3G4:3P5EB4:F5EL4:6E5E2iMZ3D5EN1B12W5E3tK1UiH5E",
   "8dZIhZ5EH2+;5EB2+K5EE2+C4W2P5EB4WK5EGJ:5ECJG5EK1V2G5EK1VK5EB1VH5EB1VV5EF1VT5ElQ2T2*5E3F3",
   "T2L5EE3T1Z5EH3TR5E2A4NB3EB1PC2BB5EL1PC5EO4N5vY5EI4NoA2BeW5E1K4NJ5E8nH1=E5EB1=H5EB1=C5EB1",
   "=B1T8;1=D5EP1TB5E.1TD5EC1=B5EO1=E5EI3EcM5E28E1A3L5EF1AN5ED1AJ5EH1AK5EC1AE5DE5E4i=5C1O5EC",
   "5CX5EJ5D3U5E1=5D7W5EK5D1H5EC5D1:5CD5DR5CI5DC5CH5D:5CE5D1.5EV1L2G5E3+5DU5EM5DU5EM5D2X5EJ5",
   "DZ5E4H5D2V5EB5D2H5EB5DC5EC5DB5EC5DC5EC5DE5EB5DM5EB5DB5EB5DH5EB5D2B5EB5DE5EC5DI5EB5DH5EB5",
   "D=5EB5DE5EB5DF5EB5DB5ED5DH5EB5DaU5EC5D9E5EC5D1S3*kM5EP3*F5EB3*P5E12Q2G;5EG2GG5E6V1GH5EB1",
   "GR5EC1GH5EB1GC5EB1GF5EF*1:5E1B*B5E3Q1W1N5ED1WO5EC1WK5EE1WC5EaA4X;5ER4=1+5EF4=B5EeQ2:1K5E",
   "nG1EH5EB1EE5EB1EC5EB1EP5EB2U6F5EC2UQ5E1JA2M5EEAK5EEAC5EoR5D2E5E2M5D1.5E6CDE5EBD*5EBDC5EB",
   "DB5ECDB5EBDK5EBDE5EBDB5EBDB5EGDB5EEDB5EBDB5EBDB5EBDD5EBDC5EBDB5ECDB5EBDB5EBDB5EBDB5EBDB5",
   "EBDC5EBDB5ECDE5EBDH5EBDE5EBDE5EBDB5EBDK5EBDR5EFDD5EBDF5EBDR5E1UDC5E8O5D1M5EE5D3E5EM5DP5E",
   "C5DP5EB5DP5EB5D1F5EK5D5O5E1Y5D+1TB5DC5EN5D1M5EE5DJ5EH5DC5EO5DG5E4+5DuY5EE5DR5ED5DN5ED5D3",
   "X5EE5D2;5EG5DM5EE5DB5EP5DM5EE5D1Y5EI5DK5EG5D1I5EI5D:5EC5DC5E2O5DaU5EM5DO5EC5DN5ED5DJ5EH5",
   "D1O5EB5DH5EI5DO5EE5DJ5EH5DJ5EH5D4T5EB5D1X5E1F5DK5E10G1P19nA5E1A1P41+5EG1P6:5EC1P5kC5EO1P",
   "79R5E30;1Pg:5E1fC1P4qL5EF1P43A5Eln2R5DB5E:5D3A5E4A5C7Q5E"]

/-- The sets of scripts that code points are used with, as numbers of scripts. -/
def scriptSets : List (List Nat) :=
  [[163],
   [70],
   [13],
   [162],
   [43],
   [164],
   [24],
   [27],
   [27, 110],
   [27, 38],
   [27, 70],
   [5],
   [50],
   [3],
   [3, 99, 118, 135, 146, 159],
   [3, 135, 146],
   [0, 3, 99, 118, 135, 146, 159],
   [0, 3, 80, 81, 107, 113, 118, 129, 135],
   [3, 135],
   [3, 146, 159],
   [3, 118],
   [135],
   [146],
   [99],
   [120],
   [80],
   [28],
   [11, 28, 42, 44, 45, 66, 70, 87, 104, 125, 140, 143, 149],
   [11, 28, 42, 44, 45, 66, 70, 87, 104, 140, 143, 149],
   [11, 28, 30, 39, 40, 42, 44, 45, 66, 78, 87, 95, 104, 127, 128, 134, 137, 140, 143, 149],
   [11, 28, 30, 39, 40, 42, 44, 45, 66, 72, 78, 87, 95, 104, 127, 128, 134, 137, 140, 143, 149],
   [28, 30, 67, 78],
   [11],
   [11, 18, 134],
   [45],
   [45, 92],
   [44],
   [44, 64],
   [104],
   [140],
   [42, 140],
   [143],
   [66],
   [66, 95],
   [87],
   [128],
   [147],
   [69],
   [148],
   [93],
   [18, 93, 138],
   [37],
   [37, 70],
   [46],
   [36],
   [22],
   [19],
   [101],
   [119],
   [145],
   [48],
   [17, 48, 136, 145],
   [17],
   [136],
   [63],
   [89],
   [89, 111],
   [72],
   [138],
   [139],
   [16],
   [68],
   [7],
   [133],
   [10],
   [71],
   [102],
   [11, 28, 42, 66],
   [28, 42],
   [11, 28],
   [28, 125],
   [28, 66, 87, 104, 140, 143],
   [28, 95],
   [11, 28, 42, 66, 95, 104, 143, 149],
   [28, 42, 66],
   [95],
   [27, 135],
   [70, 89],
   [28, 42, 70],
   [15],
   [38],
   [144],
   [47],
   [13, 46, 47, 51, 60, 160],
   [13, 46, 47, 51, 60],
   [13, 47],
   [51, 60],
   [47, 51, 60],
   [51],
   [60],
   [160],
   [75],
   [153],
   [8],
   [47, 70],
   [134],
   [28, 30, 44, 45, 64, 66, 67, 78, 87, 88, 95, 127, 137, 149],
   [28, 30, 44, 45, 64, 66, 67, 78, 88, 95, 127, 137, 149],
   [28, 30, 44, 45, 64, 67, 78, 88, 127, 137, 149],
   [111],
   [122],
   [28, 140],
   [59],
   [59, 70, 93],
   [117],
   [58],
   [16, 58],
   [21],
   [142],
   [91],
   [3, 99],
   [3, 146],
   [74],
   [25, 26, 74],
   [26, 74],
   [26, 73, 74],
   [76],
   [20],
   [3, 24],
   [57],
   [41],
   [110],
   [152],
   [157],
   [31],
   [124],
   [106],
   [105],
   [34],
   [1],
   [154],
   [73],
   [26],
   [4],
   [108],
   [97],
   [49],
   [114],
   [77],
   [86],
   [85],
   [62],
   [121],
   [96],
   [81],
   [81, 107],
   [6],
   [116],
   [112],
   [113],
   [103],
   [56],
   [118],
   [159],
   [130],
   [129],
   [107],
   [23],
   [35],
   [14],
   [67],
   [131],
   [18],
   [78],
   [125],
   [64],
   [92],
   [127],
   [42],
   [98],
   [149],
   [126],
   [88],
   [137],
   [2],
   [30],
   [155],
   [29],
   [161],
   [132],
   [109],
   [12],
   [82],
   [40],
   [39],
   [79],
   [61],
   [158],
   [25],
   [33],
   [52],
   [90],
   [150],
   [9],
   [53],
   [83],
   [115],
   [141],
   [100],
   [65],
   [32],
   [123],
   [54],
   [151],
   [156],
   [94],
   [84],
   [0]]

def scriptSetRuns : List String :=
  ["AA2BB+AGB+A1PBBAPBBAFBXABB;ABBeBA1HBFAFCCAUD2CEBDCEBD.BNEEABEDFCEEABEBFEEBABEBABEDFBEBFB",
   "EUFBE1;GOEQH4DIBJBKCJBH5IFBL1GFCL1SFCLDFBM1XFIM*FEMGFLNFABNGOBNOOBPBNCQBN1ARBNKSLNKTKNGS",
   "BN3DUBNIABN1CVOFBV1=FCVDN1QW1SFOX1*FCXDY1OFCYPFBZ=FCZBFBVLFFN;FBNCFGN2KABN.+2R*B=BDC+P.B",
   ":B;K+Q1AEFB1AIFC1ACFC1AWFB1AHFB1ABFD1AEFC1AJFC1ACFC1AEFI1ABFE1ACFB1AFFC1BK1APFC1CDFB1CGF",
   "E1CCFC1CWFB1CHFB1CCFB1CCFB1CCFC1CBFB1CFFE1CCFC1CDFD1CBFH1CEFB1CBFH1DK1CHFK1EDFB1EJFB1EDF",
   "B1EWFB1EHFB1ECFB1EFFC1EKFB1EDFB1EDFC1EBFP1EEFC1FK1ECFH1EHFB1GDFB1GIFC1GCFC1GWFB1GHFB1GCF",
   "B1GFFC1GJFC1GCFC1GDFH1GDFE1GCFB1GFFC1GSFK1HCFB1HGFD1HDFB1HEFD1HCFB1HBFB1HCFD1HCFD1HDFD1H",
   "MFE1HFFD1HDFB1HEFC1HBFG1HBFO1IO1HHFF1JNFB1JDFB1JXFB1JQFC1JJFB1JDFB1JEFH1JCFB1JDFC1JBFC1J",
   "EFC1JKFH1JJ1KNFB1KDFB1KXFB1KKFB1KFFC1KJFB1KDFB1KEFH1KCFG1KCFB1KEFC1LKFB1KDFM1MNFB1MDFB1M",
   "1TFB1MDFB1MGFE1MQFC1M+FB1NDFB1NSFD1NYFB1NJFB1NBFC1NHFD1NBFE1NGFB1NBFB1NIFG1NKFC1NDFM1O1+",
   "FEAB1O=F1F1PCFB1PBFB1PFFB1PYFB1PBFB1PXFC1PFFB1PBFB1PHFB1PKFC1PEF1A1Q2IFB1Q1EFE1Q1HFB1Q1E",
   "FB1QPFB1QHAE1QCF1F1R2A1SK1R2W1T1GFB1TBFF1TBFC1T1L1UB1TE1V8A1W2JFB1WEFC1WHFB1WBFB1WEFC1W1",
   "JFB1WEFC1W1BFB1WEFC1WHFB1WBFB1WEFC1WPFB1W1ZFB1WEFC1W2DFC1W1AFD1W+FG1X2WFC1XGFC1YkA1Z.FD1",
   "+2LAD1+LFH1*WFJ1*B1=V1.CFJ1:UFM1;NFB1;DFB1;CFM2A2:FC2AKFG2AKFG2BC2CC2BB2CB2BUFG2B2ZFH2B1",
   "LFF1Y2GFK2D;FB2DMFE2DMFE2DBFD2DM2E:FC2EFFL2F1MFE2F+FG2FLFD2FC2A1A2G=FC2GC2H1;FB2H.FC2HLF",
   "G2HKFG2HOFCD;F1R2I2NFD2I1PFB2J2A2K1UFI2KE2L1YFD2LPFD2LD2M1QHJFH1T1LFC1TD2JIFI2NB+B2NB2OB",
   "+B2PC2QB2PB2QB2RB+B2QC+C2QB2PB+H2SB2PB+C2PB+E2TB2OB2UB2PC1AB2OC2VBFFB1GEFHBB1REFBEEFBNHB",
   "B2GEDD1W2WBDBVBDFB8AEWFCEGFCE1GFCEGFCEIFBEBFBEBFBEBFBE;FCE1VFBEPFBEOFCEGFBETFCEDFBEJFBAM",
   "DCA1B2XBA1VFBALBBFCALBBAPFBBNFDA1BFPD1A2YBFPA1GEBADBCAGBBA*BBARB1JADFEAkXFZALFVAtA2Z8AAj",
   "UFCA1AFBA3J2+3AB1AG3UFFGH1T1GFB1TBFF1TBFC2*1YFH2*CFO2*B1WXFJ1WHFB1WHFB1WHFB1WHFB1WHFB1WH",
   "FB1WHFB1WHFBH1AA2DJBA+F1C2=+FB2=2ZFM2=6WF+AMFEAB2.C2:BAB2=D2.KAB2:B2.I2:EAB2=J2;E1VC2:B3",
   "AFAB2:B2=E3BC2=CFB3C2WFC3AE3CD3AB3D2+2.B3AB3DDFFC1LFB1V2:FB2=QC1A2=1EFM3DQ1V;FB2=1IAY1V;",
   "AB2=1RAP2=MAE3D1P2=B3D2Y2=ZAK2=FA3A2=;AB2=6eAA2A2=kgA3E14NFD3E1XFJ3F1Q3G9MFUH1PJBH1Q3H2Y",
   "FI3IIA+B3GADB2AFFBCFBBBFBBFFYBO3J1NFD3KD3LD3MEFG3N1YFI3O2GFI3OMFG+R2PB+B3PB+M3Q1O3RB3QB3",
   "S1EFL3SB1V.FD3T2OFB3UB3TKFE3TC1R;FB3V1XFJ3VOFC3VKFC3VE1R1A3W2DFY3WF3XXFK1WGFC1WGFC1WGFJ1",
   "WHFB1WHFBB1LABBJEBBEACFE1X2Q3X1OFC3XKFG1VatEFM1VXFE1V1RF88E2=bOFC2=3KF1GBHFMLFFFM+FBMFFB",
   "MBFBMCFBMCFBMKN3TFQNbL3YCN2QFCN1WFHNBF1ANC3ZBNK3ZBNCDQAKFGDOHCAV2:CAMFBATFBAEFENFFBN4HFC",
   "ABFBA1AB+AGB+AG2.F3DK3AB3D1N3AC1V;FD1VGFC1VGFC1VGFC1VDFDAHFBAHFKAFFC3+MFB3++FB3+TFB3+CFB",
   "3+PFC3+OF1C3+3*FF3*C3=BFE3.1NFD3=JE2PFBANFDEBF1PA1NDBF4C3:.FD3;1RFP4A=FE4B1EFJ4BD4C*FF4D",
   "1LFF4E:FB4EB4F1EFE4FOF1K4G2Q4H1Q4I:FC4IKFG4J1EFE4J1EFE4K1IFI4L1UFL4LB4MLFB4MPFB4MHFB4MCF",
   "B4MLFB4MPFB4MHFB4MCF2D4N9XFJ4NWFK4NIFYBGFBB1KFBBJF2F4OGFC4OBFB4O1MFB4OCFD4OBFC4OB4PWFB4P",
   "J4Q1A4R;FI4RJF1Q4STFB4SCFF4SF4T=FD4TB4U+FF4UBF2A4V1A4WYFE4WUFC4W1O4XEFB4XCFF4XIFB4XDFB4X",
   ".FC4XDFE4XKFH4XJFH4Y1A4Z1AF1A4+1HFE4+H4*B4+EFJ4=1WFD4=H4.WFC4.I4:TFF4:I4;SFH4;EFM4;HF2Q5",
   "A2JF1X5B1TFN5B1TFH5BG5C1IFI5CKF9GN;FB5D1KFB5DDFC5DCF2LND5E1IFI5F1KFW5G+F1G5H=FU5IXFJ5J2O",
   "FE5J1EFJ5JB5K2DFK5KBFC5LZFH5LKFG5M1VFB5MSFI5N1HFJ5O3AFB1NUFL5PSFB5P1PF1:5QHFB5QBFB5QEFB5",
   "QPFB5QLFG5R1*FF5RKFG5SB1IB5SB1IBFB5SIFC5SCFC5SWFB5SHFB5SCFB5SFFB1IC5SIFC5SCFC5SDFC5SBFG5",
   "SBFF5SHFC5SHFD5SFF4L5T2=FB5TFF:5U2IFI5UKF5G5V1WFC5V1GF1C5W2FFL5WKFG2BNFT5X1+FG5XKF1W5Y*F",
   "C5YPFE5YXF5Z5Z1=F3E5+2TFM5+B5*HFC5*BFC5*IFB5*CFB5*:FB5*CFC5*MFJ5*KF2G2VIFC2V1OFC2VLF*5=2",
   "IFI5.2TFN1YQ5:1ZFH+KF7W5;JFB5;1NFB5;OFK5;.FD6A1AFC6AWFB6AOF2J6BHFB6BCFB6B1MFD6BBFB6BCFB6",
   "BJFI6BKFG6CGFB6CCFB6C1FFB6CCFB6CGFH6CKF9W6DZFH6ERFB6E1JFD6E=F2W3FBFP1HQ1IC1HB1IB1H:FN1HB",
   "6Fs+F3G6F3PFB6FFFL6F6EF2iM6G3DFN6H12WF3tK6IiHF8dZ3HhZFH6J;FB6JKFE6JC6K2PFB6KKFG6L:FC6LGF",
   "K6M2GFK6MKFB6MHFB6MVFF6MTFlQ6N2*F3F6O2LFE6O1ZFH6ORF2A6PB6QB2=C6RBFL2=CFO6P5vYFI6PoA6ReWF",
   "1K6PJF8nH3DEFB3DHFB3DCFB3DB3C8;3DDFP3CBF.3CDFC3DBFO3DEFI6QcMF28E6S3LFF6SNFD6SJFH6SKFC6SI",
   "F4i=D1OFCDXFJA3UF1=A7WFKA1HFCA1:DDARDIACDHA:DEA1.FVE2GF3+AUFMAUFMA2XFJ2=SAHF4HA2VFBA2HFB",
   "ACFCABFCACFCAEFBAMFBABFBAHFBA2BFBAEFCAIFBAHFBA=FBAEFBAFFBABFDAHFBAaUFCA9EFCA1S6TkMFP6TFF",
   "B6TPF12QB;FGBGF6V2+HFB2+RFC2+HFB2+CFB2+FFFH1:F1BHBF3Q6U1NFD6UOFC6UKFE6UCFaA6V;FR6W1+FF6W",
   "BFeQ6X1KFnG1WHFB1WEFB1WCFB1WPFB6Y6FFC6YQF1J6Z2MFE6ZKFE6ZCFoRA2EF2MA1.F6CNEFBN*FBNCFBNBFC",
   "NBFBNKFBNEFBNBFBNBFGNBFENBFBNBFBNBFBNDFBNCFBNBFCNBFBNBFBNBFBNBFBNBFBNCFBNBFCNEFBNHFBNEFB",
   "NEFBNBFBNKFBNRFFNDFBNFFBNRF1UNCF8OA1MFEA3EFMAPFCAPFBAPFBA1FFKA5OF1YA+3CBACFNA1MFEAJFH2=C",
   "FOAGF4+AuYFEARFDANFDA3XFEA2;FGAMFEABFPAMFEA1YFIAKFGA1IFIA:FCACF2OAaUFMAOFCANFDAJFHA1OFBA",
   "HFIAOFEAJFHAJFHA4TFBA1XF1FAKF10G2=19nAF1A2=41+FG2=6:FC2=5kCFO2=79RF30;2=g:F1fC2=4qLFF2=4",
   "3AFln2RABF:A3AF4AD7QF"]

end Patternwork.Unicode
