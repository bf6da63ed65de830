namespace Patternwork.Unicode

/-- The code points that have others equal to them, in order: the distance from the one
    before, the number of the others, and the distance to each of these, doubled, and
    less one if the other comes first. -/
def foldingEntries : List String :=
  ["2BB2ABB2ABB2ABB2ABB2ABB2ABB2ABB2ABB2ABB2ABC2Agd:BB2ABB2ABB2ABB2ABB2ABB2ABB2ABC2AiYBB2ABB",
   "2ABB2ABB2ABB2ABB2ABB2AHB1;BB1;BB1;BB1;BB1;BB1;BB1;BB1;BB1;BB1;BC1;gb:BB1;BB1;BB1;BB1;BB1",
   ";BB1;BB1;BC1;gYBB1;BB1;BB1;BB1;BB1;BB1;BB1;1*C1eO1gOLB2ABB2ABB2ABB2ABB2ABC2Ag6MBB2ABB2AB",
   "B2ABB2ABB2ABB2ABB2ABB2ABB2ABB2ABB2ABB2ABB2ABB2ABB2ABB2ABB2ACB2ABB2ABB2ABB2ABB2ABB2ABB2AB",
   "Ber:BB1;BB1;BB1;BB1;BB1;BC1;g4MBB1;BB1;BB1;BB1;BB1;BB1;BB1;BB1;BB1;BB1;BB1;BB1;BB1;BB1;B",
   "B1;BB1;BB1;CB1;BB1;BB1;BB1;BB1;BB1;BB1;BB7SBBCBBBBBCBBBBBCBBBBBCBBBBBCBBBBBCBBBBBCBBBBBC",
   "BBBBBCBBBBBCBBBBBCBBBBBCBBBBBCBBBBBCBBBBBCBBBBBCBBBBBCBBBBBCBBBBBCBBBBBCBBBBBCBBBBBCBBBB",
   "BCBBBBBCBBBDBCBBBBBCBBBBBCBBBCBCBBBBBCBBBBBCBBBBBCBBBBBCBBBBBCBBBBBCBBBBBCBBBCBCBBBBBCBB",
   "BBBCBBBBBCBBBBBCBBBBBCBBBBBCBBBBBCBBBBBCBBBBBCBBBBBCBBBBBCBBBBBCBBBBBCBBBBBCBBBBBCBBBBBC",
   "BBBBBCBBBBBCBBBBBCBBBBBCBBBBBCBBBBBCBBBBB7RBBCBBBBBCBBBBBCBBBBCiXgXBBcGBBdEBBCBBBBBCBBBB",
   "Bc=BBCBBBBBc+BBc+BBCBBBCB4:BBcUBBcWBBCBBBBBc+BBc:BB6CBBdGBBdCBBCBBBBBaGCBdGBBdKBB8EBBdMB",
   "BCBBBBBCBBBBBCBBBBBdUBBCBBBBBdUDBCBBBBBdUBBCBBBBBdSBBdSBBCBBBBBCBBBBBdWBBCBBBDBCBBBCB3QF",
   "CCEBCBCBCDBBCCEBCBCBCDBBCCEBCBCBCDBBBCBBBBBCBBBBBCBBBBBCBBBBBCBBBBBCBBBBBCBBBBBCBBBBB4.B",
   "BCBBBBBCBBBBBCBBBBBCBBBBBCBBBBBCBBBBBCBBBBBCBBBBBCBBBCCCEBCBCBCDBBBCBBBBB6BBB3PBBCBBBBBC",
   "BBBBBCBBBBBCBBBBBCBBBBBCBBBBBCBBBBBCBBBBBCBBBBBCBBBBBCBBBBBCBBBBBCBBBBBCBBBBBCBBBBBCBBBB",
   "BCBBBBBCBBBBBCBBBBBCBBBBB8DCBCBBBBBCBBBBBCBBBBBCBBBBBCBBBBBCBBBBBCBBBBBCBBBBBCBBBHBl2WBB",
   "CBBBBBaFBBl2QBBl3:BBl3:BBCBBBBBcFBB4KBB4OBBCBBBBBCBBBBBCBBBBBCBBBBBCBBBBBl1:BBl1YBBl1=BB",
   "dDBBc*CBcZBBcZCBcTCBcVBB2ik:EBcZBB2ikWCBc.CB2iiQBB2ikICBdBBBdFBB2ikIBBkvOBB2ikCDBdFCBkv+",
   "BBdJDBdLIBkuODBdTCB2ikGBBdTEB2iiUBBdTBB4JBBdRBBdRBB4NGBdVLB2ihKBB2ihE5HD5I7Ie7S1LBCBBBBB",
   "CBBBDBCBBBEB8EBB8EBB8ECB7IHB2MCB2KBB2KBB2KCB4ACB3:BB3:CB2ABC2A3=BB2ABB2ABC2A6ABB2ABB2ABD",
   "2A3S5YBD5H2Ae2KBC2A5MBB2ABC1eN2ABB2ABB2ABB2ABC2A3MBC2A5ACC1:2ABB2ABB2ABC2A2:BB2ABB2ABC2A",
   "en+BB2ABB2ABB2LBB2JBB2JBB2JCB1;BC1;1=BB1;BB1;BC1;4ABB1;BB1;BD1;1S3YBD7H1;e0KBC1;3MBB1;BC",
   "1gN1;BB1;BB1;BB1;BC1;1MBC1;3ABC1.CBC1;BBB1;BB1;BC1;:BB1;BB1;BC1;el+BB1;BB1;BB3;BB3.BB3.B",
   "BQBC3*1*BD3R1R2GEC2..BC3L1LBBPBBCBBBBBCBBBBBCBBBBBCBBBBBCBBBBBCBBBBBCBBBBBCBBBBBCBBBBBCB",
   "BBBBCBBBBBCBBBBC5L3LBC4;2;BBOBB7HBD5X3X2FBC5;3;CBCBBBBBNBBCBBBCB8DBB8DBB8DBB5ABB5ABB5ABB",
   "5ABB5ABB5ABB5ABB5ABB5ABB5ABB5ABB5ABB5ABB5ABB5ABB5ABB2ABB2ABC2Ac6=BB2ABC2Ac6+BB2ABB2ABB2A",
   "BB2ABB2ABB2ABB2ABB2ABB2ABC2Ac6IBB2ABB2ABC2Ac6EBD2Ac6Ec6GBB2ABB2ABB2ABB2ABB2ABB2ABB2ABC2A",
   "c5YBB2ABB2ABB2ABB2ABB2ABB1;BB1;BC1;c4=BB1;BC1;c4+BB1;BB1;BB1;BB1;BB1;BB1;BB1;BB1;BB1;BC1",
   ";c4IBB1;BB1;BC1;c4EBD1;c4Ec4GBB1;BB1;BB1;BB1;BB1;BB1;BB1;BC1;c3YBB1;BB1;BB1;BB1;BB1;BB4;",
   "BB4;BB4;BB4;BB4;BB4;BB4;BB4;BB4;BB4;BB4;BB4;BB4;BB4;BB4;BB4;BBCBBBBCCc2KBCBc2IBBCBBBBBCB",
   "BBBBCBBBBBCBBBBBCBBBBBCBBBBBCBBBBBCBBBBBCBBBBBCBBBBBCBBBBBCBBBBBCBBBBBCBBBBBCBBBJBCBBBBB",
   "CBBBBBCBBBBBCBBBBBCBBBBBCBBBBBCBBBBBCBBBBBCBBBBBCBBBBBCBBBBBCBBBBBCBBBBBCBBBBBCBBBBBCBBB",
   "BBCBBBBBCBBBBBCBBBBBCBBBBBCBBBBBCBBBBBCBBBBBCBBBBBCBBBBBCBBBBBCBBBBB:BBCBBBBBCBBBBBCBBBB",
   "BCBBBBBCBBBBBCBBBBBCBBBBB.BBCBBBBBCBBBBBCBBBBBCBBBBBCBBBBBCBBBBBCBBBBBCBBBBBCBBBBBCBBBBB",
   "CBBBBBCBBBBBCBBBBBCBBBBBCBBBBBCBBBBBCBBBBBCBBBBBCBBBBBCBBBBBCBBBBBCBBBBBCBBBBBCBBBBBCBBB",
   "BBCBBBBBCBBBBBCBBBBBCBBBBBCBBBBBCBBBBBCBBBBBCBBBBBCBBBBBCBBBBBCBBBBBCBBBBBCBBBBBCBBBBBCB",
   "BBBBCBBBBBCBBBBBCBBBBBCBBBBBCBBBBBCBBBBBCBBBBBCBBBCB3ABB3ABB3ABB3ABB3ABB3ABB3ABB3ABB3ABB",
   "3ABB3ABB3ABB3ABB3ABB3ABB3ABB3ABB3ABB3ABB3ABB3ABB3ABB3ABB3ABB3ABB3ABB3ABB3ABB3ABB3ABB3ABB",
   "3ABB3ABB3ABB3ABB3ABB3ABB3ALB2;BB2;BB2;BB2;BB2;BB2;BB2;BB2;BB2;BB2;BB2;BB2;BB2;BB2;BB2;BB",
   "2;BB2;BB2;BB2;BB2;BB2;BB2;BB2;BB2;BB2;BB2;BB2;BB2;BB2;BB2;BB2;BB2;BB2;BB2;BB2;BB2;BB2;BB",
   "2;2o+Be6ABBe6ABBe6ABBe6ABBe6ABBe6ABBe6ABBe6ABBe6ABBe6ABBe6ABBe6ABBe6ABBe6ABBe6ABBe6ABBe6",
   "ABBe6ABBe6ABBe6ABBe6ABBe6ABBe6ABBe6ABBe6ABBe6ABBe6ABBe6ABBe6ABBe6ABBe6ABBe6ABBe6ABBe6ABB",
   "e6ABBe6ABBe6ABBe6ACBe6AGBe6ADB5sABB5sABB5sABB5sABB5sABB5sABB5sABB5sABB5sABB5sABB5sABB5sA",
   "BB5sABB5sABB5sABB5sABB5sABB5sABB5sABB5sABB5sABB5sABB5sABB5sABB5sABB5sABB5sABB5sABB5sABB5",
   "sABB5sABB5sABB5sABB5sABB5sABB5sABB5sABB5sABB5sABB5sABB5sABB5sABB5sADB5sABB5sABB5sAlBB2bt",
   "ABB2btABB2btABB2btABB2btABB2btABB2btABB2btABB2btABB2btABB2btABB2btABB2btABB2btABB2btABB2",
   "btABB2btABB2btABB2btABB2btABB2btABB2btABB2btABB2btABB2btABB2btABB2btABB2btABB2btABB2btAB",
   "B2btABB2btABB2btABB2btABB2btABB2btABB2btABB2btABB2btABB2btABB2btABB2btABB2btABB2btABB2bt",
   "ABB2btABB2btABB2btABB2btABB2btABB2btABB2btABB2btABB2btABB2btABB2btABB2btABB2btABB2btABB2",
   "btABB2btABB2btABB2btABB2btABB2btABB2btABB2btABB2btABB2btABB2btABB2btABB2btABB2btABB2btAB",
   "B2btABB2btABB2btABB2btABB2btABB2btABBQBBQBBQBBQBBQBBQDBPBBPBBPBBPBBPBBP24DCc6*c4*BCc6Zc4",
   "ZBCc6Hc4HBCc6Dc4DBDc6Dc4DCBDc6Fc4FBBCc5Xc3XBCc2Jc2HBC24sE24sGIB5r;BB5r;BB5r;BB5r;BB5r;BB",
   "5r;BB5r;BB5r;BB5r;BB5r;BB5r;BB5r;BB5r;BB5r;BB5r;BB5r;BB5r;BB5r;BB5r;BB5r;BB5r;BB5r;BB5r;",
   "BB5r;BB5r;BB5r;BB5r;BB5r;BB5r;BB5r;BB5r;BB5r;BB5r;BB5r;BB5r;BB5r;BB5r;BB5r;BB5r;BB5r;BB5",
   "r;BB5r;BB5r;DB5r;BB5r;BB5r;5+B250IEB7eMRB253Q3SBCBBBBBCBBBBBCBBBBBCBBBBBCBBBBBCBBBBBCBBB",
   "BBCBBBBBCBBBBBCBBBBBCBBBBBCBBBBBCBBBBBCBBBBBCBBBBBCBBBBBCBBBBBCBBBBBCBBBBBCBBBBBCBBBBBCB",
   "BBBBCBBBBBCBBBBBCBBBBBCBBBBBCBBBBBCBBBBBCBBBBBCBBBBBCBBBBBCBBBBBCBBBBBCBBBBBCBBBBBCBBBBB",
   "CBBBBBCBBBBBCBBBBBCBBBBBCBBBBBCBBBBBCBBBBBCBBBBBCBBBBBCBBBBBCBBBBBCBBBBCC3WBCB3UBBCBBBBB",
   "CBBBBBCBBBBBCBBBBBCBBBBBCBBBBBCBBBBBCBBBBBCBBBBBCBBBBBCBBBBBCBBBBBCBBBBBCBBBBBCBBBBBCBBB",
   "BBCBBBBBCBBBBBCBBBBBCBBBBBCBBBBBCBBBBBCBBBBBCBBBBBCBBBBBCBBBGC3V3TDBer.CBCBBBBBCBBBBBCBB",
   "BBBCBBBBBCBBBBBCBBBBBCBBBBBCBBBBBCBBBBBCBBBBBCBBBBBCBBBBBCBBBBBCBBBBBCBBBBBCBBBBBCBBBBBC",
   "BBBBBCBBBBBCBBBBBCBBBBBCBBBBBCBBBBBCBBBBBCBBBBBCBBBBBCBBBBBCBBBBBCBBBBBCBBBBBCBBBBBCBBBB",
   "BCBBBBBCBBBBBCBBBBBCBBBBBCBBBBBCBBBBBCBBBBBCBBBBBCBBBBBCBBBBBCBBBBBCBBBBBCBBBBBCBBBBBCBB",
   "BBBCBBBBBQBBQBBQBBQBBQBBQBBQBBQBBPBBPBBPBBPBBPBBPBBPBBPBBQBBQBBQBBQBBQBBQDBPBBPBBPBBPBBP",
   "BBPDBQBBQBBQBBQBBQBBQBBQBBQBBPBBPBBPBBPBBPBBPBBPBBPBBQBBQBBQBBQBBQBBQBBQBBQBBPBBPBBPBBPB",
   "BPBBPBBPBBPBBQBBQBBQBBQBBQBBQDBPBBPBBPBBPBBPBBPEBQCBQCBQCBQCBPCBPCBPCBPBBQBBQBBQBBQBBQBB",
   "QBBQBBQBBPBBPBBPBBPBBPBBPBBPBBPBB4UBB4UBB5MBB5MBB5MBB5MBB6IBB6IBB8ABB8ABB7ABB7ABB7=BB7=D",
   "BQBBQBBQBBQBBQBBQBBQBBQBBPBBPBBPBBPBBPBBPBBPBBPBBQBBQBBQBBQBBQBBQBBQBBQBBPBBPBBPBBPBBPBB",
   "PBBPBBPBBQBBQBBQBBQBBQBBQBBQBBQBBPBBPBBPBBPBBPBBPBBPBBPBBQBBQCBSFBPBBPBB4TBB4TBBRCDe7Re2",
   "Je0JFBSFB5LBB5LBB5LBB5LBBREBQBBQHBPBBPBB6HBB6HFBQBBQEBODBPBBPBB6;BB6;BBNHBSFB7;BB7;BB7*B",
   "B7*BBR9KCenZelZECgd.gb.BCg6Lg4LHB1Y=B1XSB1ABB1ABB1ABB1ABB1ABB1ABB1ABB1ABB1ABB1ABB1ABB1AB",
   "B1ABB1ABB1ABB1ABB;BB;BB;BB;BB;BB;BB;BB;BB;BB;BB;BB;BB;BB;BB;BB;EBCBBBpSB1UBB1UBB1UBB1UBB",
   "1UBB1UBB1UBB1UBB1UBB1UBB1UBB1UBB1UBB1UBB1UBB1UBB1UBB1UBB1UBB1UBB1UBB1UBB1UBB1UBB1UBB1UBB",
   "1TBB1TBB1TBB1TBB1TBB1TBB1TBB1TBB1TBB1TBB1TBB1TBB1TBB1TBB1TBB1TBB1TBB1TBB1TBB1TBB1TBB1TBB",
   "1TBB1TBB1TBB1T1oXB3ABB3ABB3ABB3ABB3ABB3ABB3ABB3ABB3ABB3ABB3ABB3ABB3ABB3ABB3ABB3ABB3ABB3A",
   "BB3ABB3ABB3ABB3ABB3ABB3ABB3ABB3ABB3ABB3ABB3ABB3ABB3ABB3ABB3ABB3ABB3ABB3ABB3ABB3ABB3ABB3A",
   "BB3ABB3ABB3ABB3ABB3ABB3ABB3ABB3ABB2;BB2;BB2;BB2;BB2;BB2;BB2;BB2;BB2;BB2;BB2;BB2;BB2;BB2;",
   "BB2;BB2;BB2;BB2;BB2;BB2;BB2;BB2;BB2;BB2;BB2;BB2;BB2;BB2;BB2;BB2;BB2;BB2;BB2;BB2;BB2;BB2;",
   "BB2;BB2;BB2;BB2;BB2;BB2;BB2;BB2;BB2;BB2;BB2;BB2;BBCBBBBBkvNBB7eLBBkuNBBl2VBBl2PBBCBBBBBC",
   "BBBBBCBBBBBl1XBBkvZBBl1.BBl1*CBCBBBCBCBBBIBl3.BBl3.BBCBBBBBCBBBBBCBBBBBCBBBBBCBBBBBCBBBB",
   "BCBBBBBCBBBBBCBBBBBCBBBBBCBBBBBCBBBBBCBBBBBCBBBBBCBBBBBCBBBBBCBBBBBCBBBBBCBBBBBCBBBBBCBB",
   "BBBCBBBBBCBBBBBCBBBBBCBBBBBCBBBBBCBBBBBCBBBBBCBBBBBCBBBBBCBBBBBCBBBBBCBBBBBCBBBBBCBBBBBC",
   "BBBBBCBBBBBCBBBBBCBBBBBCBBBBBCBBBBBCBBBBBCBBBBBCBBBBBCBBBBBCBBBBBCBBBBBCBBBBBCBBBBBCBBBI",
   "BCBBBBBCBBBEBCBBBNBe5;BBe5;BBe5;BBe5;BBe5;BBe5;BBe5;BBe5;BBe5;BBe5;BBe5;BBe5;BBe5;BBe5;B",
   "Be5;BBe5;BBe5;BBe5;BBe5;BBe5;BBe5;BBe5;BBe5;BBe5;BBe5;BBe5;BBe5;BBe5;BBe5;BBe5;BBe5;BBe5",
   ";BBe5;BBe5;BBe5;BBe5;BBe5;BBe5;CBe5;GBe5;u8TBCBBBBBCBBBBBCBBBBBCBBBBBCBBBBC24sDCBC24sFBB",
   "BCBBBBBCBBBBBCBBBBBCBBBBBCBBBBBCBBBBBCBBBBBCBBBBBCBBBBBCBBBBBCBBBBBCBBBBBCBBBBBCBBBBBCBB",
   "BBBCBBBBBCBBBTBCBBBBBCBBBBBCBBBBBCBBBBBCBBBBBCBBBBBCBBBBBCBBBBBCBBBBBCBBBBBCBBBBBCBBBBBC",
   "BBBBBCBBB4HBCBBBBBCBBBBBCBBBBBCBBBBBCBBBBBCBBBBBCBBBDBCBBBBBCBBBBBCBBBBBCBBBBBCBBBBBCBBB",
   "BBCBBBBBCBBBBBCBBBBBCBBBBBCBBBBBCBBBBBCBBBBBCBBBBBCBBBBBCBBBBBCBBBBBCBBBBBCBBBBBCBBBBBCB",
   "BBBBCBBBBBCBBBBBCBBBBBCBBBBBCBBBBBCBBBBBCBBBBBCBBBBBCBBBBBCBBBKBCBBBBBCBBBBB250HBBCBBBBB",
   "CBBBBBCBBBBBCBBBBBCBBBEBCBBBBB2iiPDBCBBBBBCBBBBB3ACBCBBBBBCBBBBBCBBBBBCBBBBBCBBBBBCBBBBB",
   "CBBBBBCBBBBBCBBBBBCBBBBB2ikHBB2ik.BB2ikVBB2ikBBB2ikHCB2ihDBB2iiTBB2ihJBB1qABBCBBBBBCBBBB",
   "BCBBBBBCBBBBBCBBBBBCBBBBBCBBBBBCBBBBB2;BB2ikFBB253PBBCBBBBBCBBBGBCBBBFBCBBBBBCBBB=BCBBBq",
   ".B1p;.B2bs;BB2bs;BB2bs;BB2bs;BB2bs;BB2bs;BB2bs;BB2bs;BB2bs;BB2bs;BB2bs;BB2bs;BB2bs;BB2bs",
   ";BB2bs;BB2bs;BB2bs;BB2bs;BB2bs;BB2bs;BB2bs;BB2bs;BB2bs;BB2bs;BB2bs;BB2bs;BB2bs;BB2bs;BB2",
   "bs;BB2bs;BB2bs;BB2bs;BB2bs;BB2bs;BB2bs;BB2bs;BB2bs;BB2bs;BB2bs;BB2bs;BB2bs;BB2bs;BB2bs;B",
   "B2bs;BB2bs;BB2bs;BB2bs;BB2bs;BB2bs;BB2bs;BB2bs;BB2bs;BB2bs;BB2bs;BB2bs;BB2bs;BB2bs;BB2bs",
   ";BB2bs;BB2bs;BB2bs;BB2bs;BB2bs;BB2bs;BB2bs;BB2bs;BB2bs;BB2bs;BB2bs;BB2bs;BB2bs;BB2bs;BB2",
   "bs;BB2bs;BB2bs;BB2bs;BB2bs;BB2bs;BB2bs;BB2bs;krCB2ABB2ABB2ABB2ABB2ABB2ABB2ABB2ABB2ABB2AB",
   "B2ABB2ABB2ABB2ABB2ABB2ABB2ABB2ABB2ABB2ABB2ABB2ABB2ABB2ABB2ABB2AHB1;BB1;BB1;BB1;BB1;BB1;B",
   "B1;BB1;BB1;BB1;BB1;BB1;BB1;BB1;BB1;BB1;BB1;BB1;BB1;BB1;BB1;BB1;BB1;BB1;BB1;BB1;15GB2QBB2",
   "QBB2QBB2QBB2QBB2QBB2QBB2QBB2QBB2QBB2QBB2QBB2QBB2QBB2QBB2QBB2QBB2QBB2QBB2QBB2QBB2QBB2QBB2",
   "QBB2QBB2QBB2QBB2QBB2QBB2QBB2QBB2QBB2QBB2QBB2QBB2QBB2QBB2QBB2QBB2QBB2PBB2PBB2PBB2PBB2PBB2",
   "PBB2PBB2PBB2PBB2PBB2PBB2PBB2PBB2PBB2PBB2PBB2PBB2PBB2PBB2PBB2PBB2PBB2PBB2PBB2PBB2PBB2PBB2",
   "PBB2PBB2PBB2PBB2PBB2PBB2PBB2PBB2PBB2PBB2PBB2PBB2P3BB2QBB2QBB2QBB2QBB2QBB2QBB2QBB2QBB2QBB",
   "2QBB2QBB2QBB2QBB2QBB2QBB2QBB2QBB2QBB2QBB2QBB2QBB2QBB2QBB2QBB2QBB2QBB2QBB2QBB2QBB2QBB2QBB",
   "2QBB2QBB2QBB2QBB2QFB2PBB2PBB2PBB2PBB2PBB2PBB2PBB2PBB2PBB2PBB2PBB2PBB2PBB2PBB2PBB2PBB2PBB",
   "2PBB2PBB2PBB2PBB2PBB2PBB2PBB2PBB2PBB2PBB2PBB2PBB2PBB2PBB2PBB2PBB2PBB2PBB2P3VB2OBB2OBB2OB",
   "B2OBB2OBB2OBB2OBB2OBB2OBB2OBB2OCB2OBB2OBB2OBB2OBB2OBB2OBB2OBB2OBB2OBB2OBB2OBB2OBB2OBB2OB",
   "B2OCB2OBB2OBB2OBB2OBB2OBB2OBB2OCB2OBB2OCB2NBB2NBB2NBB2NBB2NBB2NBB2NBB2NBB2NBB2NBB2NCB2NB",
   "B2NBB2NBB2NBB2NBB2NBB2NBB2NBB2NBB2NBB2NBB2NBB2NBB2NBB2NCB2NBB2NBB2NBB2NBB2NBB2NBB2NCB2NB",
   "B2N1mEB4ABB4ABB4ABB4ABB4ABB4ABB4ABB4ABB4ABB4ABB4ABB4ABB4ABB4ABB4ABB4ABB4ABB4ABB4ABB4ABB4",
   "ABB4ABB4ABB4ABB4ABB4ABB4ABB4ABB4ABB4ABB4ABB4ABB4ABB4ABB4ABB4ABB4ABB4ABB4ABB4ABB4ABB4ABB4",
   "ABB4ABB4ABB4ABB4ABB4ABB4ABB4ABB4AOB3;BB3;BB3;BB3;BB3;BB3;BB3;BB3;BB3;BB3;BB3;BB3;BB3;BB3",
   ";BB3;BB3;BB3;BB3;BB3;BB3;BB3;BB3;BB3;BB3;BB3;BB3;BB3;BB3;BB3;BB3;BB3;BB3;BB3;BB3;BB3;BB3",
   ";BB3;BB3;BB3;BB3;BB3;BB3;BB3;BB3;BB3;BB3;BB3;BB3;BB3;BB3;BB3;2tOB2ABB2ABB2ABB2ABB2ABB2AB",
   "B2ABB2ABB2ABB2ABB2ABB2ABB2ABB2ABB2ABB2ABB2ABB2ABB2ABB2ABB2ABB2ABB2ABB2ABB2ABB2ABB2ABB2AB",
   "B2ABB2ABB2ABB2ABB1;BB1;BB1;BB1;BB1;BB1;BB1;BB1;BB1;BB1;BB1;BB1;BB1;BB1;BB1;BB1;BB1;BB1;B",
   "B1;BB1;BB1;BB1;BB1;BB1;BB1;BB1;BB1;BB1;BB1;BB1;BB1;BB1;lbBB2ABB2ABB2ABB2ABB2ABB2ABB2ABB2",
   "ABB2ABB2ABB2ABB2ABB2ABB2ABB2ABB2ABB2ABB2ABB2ABB2ABB2ABB2ABB2ABB2ABB2ABB2ABB2ABB2ABB2ABB2",
   "ABB2ABB2ABB1;BB1;BB1;BB1;BB1;BB1;BB1;BB1;BB1;BB1;BB1;BB1;BB1;BB1;BB1;BB1;BB1;BB1;BB1;BB1",
   ";BB1;BB1;BB1;BB1;BB1;BB1;BB1;BB1;BB1;BB1;BB1;BB1;ukBB2EBB2EBB2EBB2EBB2EBB2EBB2EBB2EBB2EB",
   "B2EBB2EBB2EBB2EBB2EBB2EBB2EBB2EBB2EBB2EBB2EBB2EBB2EBB2EBB2EBB2EBB2EBB2EBB2EBB2EBB2EBB2EB",
   "B2EBB2EBB2EBB2DBB2DBB2DBB2DBB2DBB2DBB2DBB2DBB2DBB2DBB2DBB2DBB2DBB2DBB2DBB2DBB2DBB2DBB2DB",
   "B2DBB2DBB2DBB2DBB2DBB2DBB2DBB2DBB2DBB2DBB2DBB2DBB2DBB2DBB2D"]

end Patternwork.Unicode
