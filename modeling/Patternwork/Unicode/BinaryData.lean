namespace Patternwork.Unicode

/-- The places where a property begins and ends to hold, every place as its distance from the one
    before. -/
def alphabeticBounds : List String :=
  ["2B+G+1PBKBEBFXB;BeKEMOFHBBB2WB1KFBCCEBBGBBDBBBUB2TB4LI5GB1GCBG1J1HOBBBCBCBBI*EE.LF1YBHO3",
   "GBIEIEDKDCBQ1QN3FY1BJCEBFYCTTZHLFYBGR1KKMDHG2MBQBDEPNTBICCCWBHBBDEDICCCCBBIBECBFMCKBEDBG",
   "ECCWBHBCBCBCEFECCCEBHEBBRGLDBJBDBWBHBCBFDJBDBCDBPEVEEDBICCCWBHBCBFDICCCCJCECBFNBQCBGDDBE",
   "DCBBBCDCDDDMEFDDBDDBGB1INBDBXBQDIBDBDICBDCBCE=EBIBDBXBKBFDIBDBDICGCBENDMNBDB1JCIBDBDBBFE",
   "HFWGBDBSDYBJBBCHIGBBBISCN1+FHGB1TCBBBFBYBBBTBDCFBBGBOE1AB1;IB1EETEQB1E2D1XBBCFQ2AKEC1GBB",
   "FBC1LBaNBECHBBBEC1JBEC1BBECHBBBECPB1ZBEC2D1FQQ2WCGDjMCRB+F2LDLHULVMUMNBDBCM1UCTOBEB2D2ZH",
   "1LF2GK;BMEJX:CFL1ME+1W=E1;CU1SBXCLD1R1UBPBI1T1KCEK1MBLO1XWDK1ECJH1LCD1JEBGBCDBF6A1HOL8WC",
   "GC1GCGCIBBBBBBB;C1VBHBBDDBHDECGENFDBH3UBNBQN3FBEBCKBBDFGBBBBBBEBLCEFFEBR1JpN1U1oW7FGEDCM",
   "1GBBFBC1YHBQXJHBHBHBHBHBHBHBHB1A1PBeVDZJHFCFE2WGDB2+BEF1LB2:R1A1QQgA6eA2AlkN2D1OC8NDQKCU",
   "1PFID3R1HJC3HC2AFCBBBFYUB1BY1UM2EBB1MGDBBDK1BF1DN.D1TBMPBQQKFB1XJOSXD2FBBBBYDCQCELGCGCGJ",
   "HBHB1LBOG3*VatEMXE1R88EbOC3K1GHMFFMBNBFBBBCBCB3M1BbLS2AC1W1IM3UFB4H1E+G+L2ZDGCGCGCD1DMB+",
   "BTBCBPCO1C3*2F1V8L.D1R1P1AN:F1LF:C1EEIBF1K4:S1EE1EE1II1UMLBPBHBCBLBPBHBC2D9XJWKIYGB1KBJ2",
   "FGCBB1MBCDBCXKXJ;2BTBCKWK+2G1YGC2AEBCFIBDB.1K.D.1DIB=*1WKWKTNS3O2J1X1TN1TN1IaY1KBCDC2O.K",
   "BIW1KS1OV*XJ2G1LFK1ZJBNZX1TREI1DDBJ2ABEJCKBBB1DSB1CCBGE1:HBBBEBPBKH1ZXEBICCCWBHBCBFDICCC",
   "CDBGBFH4=2CBDBEUD:2CCCBB5Y1WCHZG1C1;BBDB1*1WCB2H*COVH5Z1Z3H2A;ICBCIBCB:BCCCCE2.IC1OCGBBB",
   "C*1TCKR2IFBS2J8HJB1NBHBB1R:CWBO2JHBCB1MDBBCBDBBCCYGBCB1FBCBEBBaHXJRB1JDD3PB2Ps+3G3PR6E2i",
   "M3BP11QRG3tZiH8dZhZH;R2PR:S1QQE;VFTlQ2A4A2LE1ZHR2ACBBMCO5vYI16W1KJ8nHEBHBCB9DPB.DCBOEIcM",
   "28E3LFNDJHKEB5rB2VB2HBCCBCCCEBMBBBHB2BBECIBHB=BEBFBBDHBaUCZBZB;BZB;BZB;BZB;BZBI1pU;GG6VH",
   "BRCHBCBFF1:1BB3Q1NKHQBaB:S1MfE=nUHBEBCBPB6F1*2EDBDB15UEB*BCBBCBBKBEBBBBGBEBBBBBBDBCBBCBB",
   "BBBBBBBBCBBCEBHBEBEBBBKBRFDBFBRjU+G+G+3jW19nA1A41+G6:C5kCO79R30;g:1fC4qLF43A"]

def binaryData : List (String × List String) :=
  [("alpha alphabetic", alphabeticBounds),
   ("ahex asciihexdigit",
    ["1QKHG+G"]),
   ("bidic bidicontrol",
    ["1g=B6fRC+F1XE"]),
   ("ci caseignorable",
    ["1HBGBLB1DBBB2HBEBBBEBCCfX6AECEBJCBB7*H6PBFB1R1NBBBCBCBB1MBLGKLBB1DBKVQB3FIBKBE1BBBB:*2*L",
     "1+LEBCBYY1LD1MBHCGI1J1+1XBBBEIEBDHKCNBPB1+BEEIBUC+BCC1ZBECECCDDB:CDBLC1ZBEFBCEBUCWGBB1+B",
     "CBBEIBHCLC:B1.BMB1SBDB1XBBDFDBEHCLC.B1+BCBGBFCUC=C1ZCEEIBUC.B2IBHDBB2+BCHLJ3CBCJJBBH2JC*",
     "BBBBB1XOBFBCFLB1EJB3GEBGBCCCZCEDQENBCCGBPB2:BjADtSD.C:C:C2ACBHIBCLDBFB1NF1TB2BC1CB3WDECJ",
     "BGD6*CCB1+BBHBBBBCIGKCB1HBI;1RE1QBBFBBFB1IJMC1AECCBD1YBBCDBBD1+ICC2AG2SDBNBHEBGBDC1S1;NB",
     "1C3Fd.BBDLDNDNDNCMFICKBCBCF1RFBKBBNBQN1T1B2sLC3RD3.BPB3A1A1PBeVB1EEDFFB2.G2.DroWB17CG8OB",
     "3CEBKBB=E2QCO1C2OBXD3HDDCIBDBEBZCFB4XC+SNB1GIZL1OD1QBCECCRBVC2CGCCCCMBIB1DBLB1TBBDCCFCBB",
     "*BOCFCBB3EFJD3ZBCBEBjpQB4TRh.QDBMQ1CBCB5JBHBGBLB1DBBB1PB1NC2DBVDgBB7CB4VF10FGB1KBJiGDBCF",
     "E1IDEB5FCh.EcDC2QD2GL1RE3*B1WP1JBCCKD1RECCCBEBKB1SD1EFBI1:BMC1UJKECB2;DCBBCGBCB4.BDIVC1Z",
     "CDB1FHDF6DICDBBXB2UGBBECBC7OEGCBC*C2VICBBC3KBBBCGBB3FDCEBF8DJBC8ACBBEB4QECCEB1AK1IGCEIBJ",
     "GCD1ONBCcWHBGBB2SWCHBCBC3+GDBBCBHBB2ICDBBBa*CLC1UFFBBB57NRGPdk+F1*HJE10LB1;R2ACBCg0LEBHB",
     "C34:CBE4i=1OCXhADJQCH:E4UD1t*1XE1SIBOBWFBP1aQHBRCHBCBFF1:1BB5AObQB1.Ef*FvAH3NI2lPFo30BB:",
     "3A4A7Q"]),
   ("cased",
    ["2B+G+1PBKBEBFXB;B6DBEE6QB1EHC:F3AB1KECCCEBBGBBDBBBUB2TB4LI5GB1GJ1J2oX1GBBFBC1LBElA2WCG24",
     "CJH1LCD2A6A2A8WCGC1GCGCIBBBBBBB;C1VBHBBDDBHDECGENFDBH3UBNBQN3FBEBCKBBDFGBBBBBBEBGEBCEFFE",
     "BR1ADCpR1U1oW7FGEDCM1GBBFBu8S1OS:4E3GDEB1*FCBBBFYFBDpV1LBOG2QjqAHMF10J+G+15F2Q3A1EE1E3UL",
     "BPBHBCBLBPBHBCeDBCDB1KBJ16F1TN1T2tN2AlbA2ApcA2VB2HBCCBCCCEBMBBBHB2BBECIBHB=BEBFBBDHBaUCZ",
     "BZB;BZB;BZB;BZB;BZBI1pUKBUGG8F1:24S2E1vM+G+G+"]),
   ("cwcf changeswhencasefolded",
    ["2B+2+BKXBI1ABBBBBBBBBBBBBBBBBBBBBBBBBBBBBBBBBBBBBBBBBBBBBBBBBBBBBBBCBBBBBBBBBBBBBBBBCBBB",
     "BBBBBBBBBBBBBBBBBBBBBBBBBBBBBBBBBBBBBBBBBBCBBBBBBBCBBBCBDCEBCBDDCBCBBBBBCBBCBBCBDBBBCDBH",
     "CBCBCBBBBBBBBBBBBBBBBCBBBBBBBBBBBBBBBBBCCBBBDBBBBBBBBBBBBBBBBBBBBBBBBBBBBBBBBBBBBBBBBBBB",
     "BBBBBBBBBBBBBBBHCBCCBBEBBBBBBBB7WB1KBBBDBIBGBBDBBBCBRBJWBMDDCBBBBBBBBBBBBBBBBBBBBBBBBBCC",
     "CBBBCC1T1QBBBBBBBBBBBBBBBBBBBBBBBBBBBBBBBBBJBBBBBBBBBBBBBBBBBBBBBBBBBBBBBBBBBBBBBBBBBBBB",
     "BBBBBBBBBBCBBBBBBBBBBBBCBBBBBBBBBBBBBBBBBBBBBBBBBBBBBBBBBBBBBBBBBBBBBBBBBBBBBBBBBBBBBBBB",
     "BBBBBBBBBBBBBBBBBBBBBBBBBBBBBBBC1G1QB2oY1GBBFBpKG24CJH1LCDaABBBBBBBBBBBBBBBBBBBBBBBBBBBB",
     "BBBBBBBBBBBBBBBBBBBBBBBBBBBBBBBBBBBBBBBBBBBBBBBBBBBBBBBBBBBBBBBBBBBBBBBBBBBBBBBBBBBBBBBB",
     "BBBBBBBBBBBBBBBBBBBBBBBBBBBBBBBBBFCCBBBBBBBBBBBBBBBBBBBBBBBBBBBBBBBBBBBBBBBBBBBBBBBBBBBB",
     "BBBBBBBBBBBBBBBBBBBBBBBBBBBBBBBBBBBBBBBBBBBBBJIIGKIIIIGLBBBBBBBIIQ1QCDCGFDCGLEMFFDCG9JBD",
     "CGB1NQTBpS+1pQ1Q1QBBDCBBBBBBEBBCBIDBBBBBBBBBBBBBBBBBBBBBBBBBBBBBBBBBBBBBBBBBBBBBBBBBBBBB",
     "BBBBBBBBBBBBBBBBBBBBBBBBBBBBBBBBBBBBBBBBBBBBBIBBBEBuaNBBBBBBBBBBBBBBBBBBBBBBBBBBBBBBBBBB",
     "BBBBBBBBBBBTBBBBBBBBBBBBBBBBBBBBBBBBBBB4HBBBBBBBBBBBBBDBBBBBBBBBBBBBBBBBBBBBBBBBBBBBBBBB",
     "BBBBBBBBBBBBBBBBBBBBBBBBBBBBKBBBBCBBBBBBBBEBBBCBBBDBBBBBBBBBBBBBBBBBBBBFBFBBBBBBBBBBBBBB",
     "BEBBGBFBBB=Br+2QjqAHMF10J+16F1I4I1E4=LBPBHBC1nK1T2vN1AlcA1AulA1C"]),
   ("cwcm changeswhencasemapped",
    ["2B+G+1+BKXB;B2AB2UBNBOCOCCBBE2.BSG*BCBBBCDCBBBCBFCBBCCBHBCBBCDGFBKC5GB1KECCDDBBGBBDBBBUB",
     "1PD1BBFB4FI5GB1GK1H2oY1GBBFBC1LCDlA2WCG24CJH1LCD5ZBDBQB3R4=CBB3WCGC1GCGCIBBBBBBB;C1VBHBB",
     "DDBHDECGENFDBH9JBDCGB*BR1ADCpR1U1oW3RBCBCH3GHEDCM1GBBFBu8S1OS=4GOC1:JPDDCFBZB*FCEE*Cq=B=",
     "2QjqAHMF10J+G+15F2Q3A1EE1E3ULBPBHBCBLBPBHBC1mD1TN1T2tN2AlbA2AukA2E"]),
   ("cwl changeswhenlowercased",
    ["2B+3FXBH1BBBBBBBBBBBBBBBBBBBBBBBBBBBBBBBBBBBBBBBBBBBBBBBBBBBBBBBBCBBBBBBBBBBBBBBBCBBBBBB",
     "BBBBBBBBBBBBBBBBBBBBBBBBBBBBBBBBBBBBBBBBCBBBBDCBBBCBDCEBCBDDCBCBBBBBCBBCBBCBDBBBCDBHCBCB",
     "CBBBBBBBBBBBBBBBBCBBBBBBBBBBBBBBBBBCCBBBDBBBBBBBBBBBBBBBBBBBBBBBBBBBBBBBBBBBBBBBBBBBBBBB",
     "BBBBBBBBBBBHCBCCBBEBBBBBBBB9BBBBDBIBGBBDBBBCBRBJ1DBIBBBBBBBBBBBBBBBBBBBBBBBFBCBBCC1T1QBB",
     "BBBBBBBBBBBBBBBBBBBBBBBBBBBBBBBJBBBBBBBBBBBBBBBBBBBBBBBBBBBBBBBBBBBBBBBBBBBBBBBBBBBBBBCB",
     "BBBBBBBBBBBCBBBBBBBBBBBBBBBBBBBBBBBBBBBBBBBBBBBBBBBBBBBBBBBBBBBBBBBBBBBBBBBBBBBBBBBBBBBB",
     "BBBBBBBBBBBBBBBBBBBC1G2qJ1GBBFBmS2W24+1LCDaABBBBBBBBBBBBBBBBBBBBBBBBBBBBBBBBBBBBBBBBBBBB",
     "BBBBBBBBBBBBBBBBBBBBBBBBBBBBBBBBBBBBBBBBBBBBBBBBBBBBBBBBBBBBBBBBBBBBBBBBBBBBBBBBBBBBBBBB",
     "BBBBBBBBBBBBBBBBBJBBBBBBBBBBBBBBBBBBBBBBBBBBBBBBBBBBBBBBBBBBBBBBBBBBBBBBBBBBBBBBBBBBBBBB",
     "BBBBBBBBBBBBBBBBBBBBBBBBBBBJIIGKIIIIGLBBBBBBBIIYIIIIIIFLFLEMFLF9JBDCGB1NQTBpS+1pQ1Q1QBBD",
     "CBBBBBBEBBCBIDBBBBBBBBBBBBBBBBBBBBBBBBBBBBBBBBBBBBBBBBBBBBBBBBBBBBBBBBBBBBBBBBBBBBBBBBBB",
     "BBBBBBBBBBBBBBBBBBBBBBBBIBBBEBuaNBBBBBBBBBBBBBBBBBBBBBBBBBBBBBBBBBBBBBBBBBBBBBTBBBBBBBBB",
     "BBBBBBBBBBBBBBBBBB4HBBBBBBBBBBBBBDBBBBBBBBBBBBBBBBBBBBBBBBBBBBBBBBBBBBBBBBBBBBBBBBBBBBBB",
     "BBBBBBBKBBBBCBBBBBBBBEBBBCBBBDBBBBBBBBBBBBBBBBBBBBFBFBBBBBBBBBBBBBBBEBBGBFBBB=BlpL+16F1I",
     "4I1E4=LBPBHBC1nK1T2vN1AlcA1AulA1C"]),
   ("cwt changeswhentitlecased",
    ["3B+1+B1JYBIBBBBBBBBBBBBBBBBBBBBBBBBBBBBBBBBBBBBBBBBBBBBBBBBBBBBBBBBCBBBBBBBBBBBBBBCBBBBB",
     "BBBBBBBBBBBBBBBBBBBBBBBBBBBBBBBBBBBBBBBBBCBBBBDCBBBCBDBFBCBDCDBCBBBBBCBEBCBDBBBCBDBBBEBB",
     "CBCBBBBBBBBBBBBBBBBBCBBBBBBBBBBBBBBBBBDBBBBDBBBBBBBBBBBBBBBBBBBBBBBBBBBBBBBBBBBBBBBDBBBB",
     "BBBBBBBBBBBBBIBCCBBEBBBBBBBBGBCBBBCDCBBBCBFCBBCCBHBCBBCDGFBKC5GB1LBBBDBDDSB*1DBCDDBBBBBB",
     "BBBBBBBBBBBBBBBBBFBBCBCB1U1QBBBBBBBBBBBBBBBBBBBBBBBBBBBBBBBBBBJBBBBBBBBBBBBBBBBBBBBBBBBB",
     "BBBBBBBBBBBBBBBBBBBBBBBBBBBBCBBBBBBBBBBBBCBBBBBBBBBBBBBBBBBBBBBBBBBBBBBBBBBBBBBBBBBBBBBB",
     "BBBBBBBBBBBBBBBBBBBBBBBBBBBBBBBBBBBBBBBBBBBBBBBBBB1R1H3jQG24CJ7QBDBQB3SBBBBBBBBBBBBBBBBB",
     "BBBBBBBBBBBBBBBBBBBBBBBBBBBBBBBBBBBBBBBBBBBBBBBBBBBBBBBBBBBBBBBBBBBBBBBBBBBBBBBBBBBBBBBB",
     "BBBBBBBBBBBBBBBBBBBBBBBBBBBBBBBBBBBBBBBBBBBHFBBBBBBBBBBBBBBBBBBBBBBBBBBBBBBBBBBBBBBBBBBB",
     "BBBBBBBBBBBBBBBBBBBBBBBBBBBBBBBBBBBBBBBBBBBBBBBBBBBJIGKIIIIGKIIIIOCIIIIIIFBCGBDDBCIECCII",
     "KDBCaWB1BQEBqL+1qG1QBBDCBBBBBBGBCBKBBBBBBBBBBBBBBBBBBBBBBBBBBBBBBBBBBBBBBBBBBBBBBBBBBBBB",
     "BBBBBBBBBBBBBBBBBBBBBBBBBBBBBBBBBBBBBBBBBBBBBBIBBBEBM1GBBFBu8TBBBBBBBBBBBBBBBBBBBBBBBBBB",
     "BBBBBBBBBBBBBBBBBBBTBBBBBBBBBBBBBBBBBBBBBBBBBBB4HBBBBBBBBBBBBBDBBBBBBBBBBBBBBBBBBBBBBBBB",
     "BBBBBBBBBBBBBBBBBBBBBBBBBBBBBBBBBBBBKBBBCBBBBBBBBBEBEBBCCBBBBBBBBBBBBBBBBBBBLBBBBBBBBBBB",
     "BBBBEBBBGBFBBB=Bq=B=2QjqAHMF11J+16N1I4I1E4*LBPBHBC1oD1T2uN1AlcA1AulC1C"]),
   ("cwu changeswhenuppercased",
    ["3B+1+B1JYBIBBBBBBBBBBBBBBBBBBBBBBBBBBBBBBBBBBBBBBBBBBBBBBBBBBBBBBBBCBBBBBBBBBBBBBBCBBBBB",
     "BBBBBBBBBBBBBBBBBBBBBBBBBBBBBBBBBBBBBBBBBCBBBBDCBBBCBDBFBCBDCDBCBBBBBCBEBCBDBBBCBDBBBFCB",
     "CBCBBBBBBBBBBBBBBBCBBBBBBBBBBBBBBBBBCBCBBDBBBBBBBBBBBBBBBBBBBBBBBBBBBBBBBBBBBBBBBDBBBBBB",
     "BBBBBBBBBBBIBCCBBEBBBBBBBBGBCBBBCDCBBBCBFCBBCCBHBCBBCDGFBKC5GB1LBBBDBDDSB*1DBCDDBBBBBBBB",
     "BBBBBBBBBBBBBBBFBBCBCB1U1QBBBBBBBBBBBBBBBBBBBBBBBBBBBBBBBBBBJBBBBBBBBBBBBBBBBBBBBBBBBBBB",
     "BBBBBBBBBBBBBBBBBBBBBBBBBBCBBBBBBBBBBBBCBBBBBBBBBBBBBBBBBBBBBBBBBBBBBBBBBBBBBBBBBBBBBBBB",
     "BBBBBBBBBBBBBBBBBBBBBBBBBBBBBBBBBBBBBBBBBBBBBBBB1R1H2qI1LCDnYG24CJ7QBDBQB3SBBBBBBBBBBBBB",
     "BBBBBBBBBBBBBBBBBBBBBBBBBBBBBBBBBBBBBBBBBBBBBBBBBBBBBBBBBBBBBBBBBBBBBBBBBBBBBBBBBBBBBBBB",
     "BBBBBBBBBBBBBBBBBBBBBBBBBBBBBBBBBBBBBBBBBBBBBBBHFBBBBBBBBBBBBBBBBBBBBBBBBBBBBBBBBBBBBBBB",
     "BBBBBBBBBBBBBBBBBBBBBBBBBBBBBBBBBBBBBBBBBBBBBBBBBBBBBBBJIGKIIIIGKIIIIOC1VBCEBBBDDBCEBDEC",
     "CIIKDBCEBaRB1BQEBqL+1qG1QBBDCBBBBBBGBCBKBBBBBBBBBBBBBBBBBBBBBBBBBBBBBBBBBBBBBBBBBBBBBBBB",
     "BBBBBBBBBBBBBBBBBBBBBBBBBBBBBBBBBBBBBBBBBBBBBBBBBBBIBBBEBM1GBBFBu8TBBBBBBBBBBBBBBBBBBBBB",
     "BBBBBBBBBBBBBBBBBBBBBBBBTBBBBBBBBBBBBBBBBBBBBBBBBBBB4HBBBBBBBBBBBBBDBBBBBBBBBBBBBBBBBBBB",
     "BBBBBBBBBBBBBBBBBBBBBBBBBBBBBBBBBBBBBBBBBKBBBCBBBBBBBBBEBEBBCCBBBBBBBBBBBBBBBBBBBLBBBBBB",
     "BBBBBBBBBEBBBGBFBBB=Bq=B=2QjqAHMF11J+16N1I4I1E4*LBPBHBC1oD1T2uN1AlcA1AulC1C"]),
   ("dash",
    ["1NB1a=B1TB3iBB10FB20JG1.B1HBPBcGB30EBCB;CEB=Bd:BTB3PB1jcQC1FBKB5JB3s;B"]),
   ("di defaultignorablecodepoint",
    ["5NBlBBmMB2qCC1iTC2VF1v*F+F1RQ47UB1j4*Q7PB5AB2PJ1f5HE56PIobkF40A"]),
   ("dep deprecated",
    ["aJB19JB28DBBB21JC26FGlZCrn6WB"]),
   ("dia diacritic",
    ["2:BBB2HBGBEBCCfX4;BIFGRCEBJC7.F6RB1XRB*BBBCBB4GIEC4GCECDD2D*2*L1+L1CC3:I1JKQ=1.BQBDE=B2K",
     "BQB3OBQB3OBQB1PD1=BQBHB3XB3OBQB3OBQB3NCQB3=B3=GBB3LBNF2LC*BBBBBEC2CDBC1:B3QBBC1ICEFZHBBK",
     "CmBDtUC5TLJBa*D9ZICB1QPCL3IBPB1GJ1WC4KC2AG2SZEBGBCD1S1;2ZM1FLd.BBDLDNDNDNC37QD9.Bf+G3JE2",
     ";BtbSBMCBB=C2SCO1C3GD3NC6KB*S1ZE1EB2;BMB1EB4VD2BE1TB3EFJD4ACjpQBoBQ8OBBB1PB1NC2DBn=B14;G",
     "B1KBJpKCh*GeVD2GL1RE6AB1JB2IC3YC1:B2MBJD3IC5SC2RBQBYHDF6NBDB3*C7*C3:B3WC3TB8NC8CCEB4=B2T",
     "BSB2RBdFB8CBBC2RB5lPPdk+F1*H12YR2QCfv:EBHBC7oB1OCXhADDGIICH:E3kC1:6CHbXB1.E1fAH3NDBD"]),
   ("emoji",
    ["1DBGBFK3PBEB7sNBMB6YBWB2+GPCbPCMB5GBZLED6HB7HCKBJB1+EBFJBCBCCCBEBCBBCCBDBDCIDFBBBFMLCCBB",
     "CBBSBCCSGBBBCDCFBCCECLCFCCBFCBBBCUCFGBECBEBCBCGBBCBBBBBGBDBGBKCPBCBEBBBEDBBLC1QDJBOBOBbU",
     "CePDTC1TBEB16+BMBiZBBB3fbKB6KB5ACMCOBCK2L+BCXBUBCJVC5O1CC3QCCBDC2TCDB8HB1;LGBYHCCIMBCECB",
     "ECNCCBICJBFDMDIDCBBBEBGBDBG2W1Q2GFICDEKDBBCDBCK7DMEB8*1PBKB5Z3QNDJH1OBHIOEJHJ"]),
   ("ecomp emojicomponent",
    ["1DBGBFK7uTB6VB1n9LB1suW+f*F1dQEo1jM3A"]),
   ("emod emojimodifier",
    ["3sv*F"]),
   ("ebase emojimodifierbase",
    ["9g.B6*BQE3j3XB1=DCBCD3VCCLVTDBEDBDHBBBYB6JCEBVBEC5ODDF2TBQDJBLBh;BCBIIGBJKCD1YB1.CBCBBRD",
     "BN7FD1KJ"]),
   ("epres emojipresentation",
    ["8o+C6NEDBCBgJCVC1SM1LBTBNBICRCFCIBFBVBHCBBEBCBHBEC=B1DBBBEDBB1.DYBOBq*C1TBEB3h5OB6KB5:BC",
     "K2L+BBYBUBCFBDVC5O1BMJB2GBWM1LEFMRDBD2HBBB5*C1;NEBYSB+CNB2W2V1Q2GGBDDCDEELCHJ7DMEB8*1PBK",
     "B5Z3QNDJH1OBHIOEJHJ"]),
   ("extpict extendedpictographic",
    ["5JBEB7sNBMB6YBWB2+GPCbPCMB2;B2GBZLED6HB7HCKBJB1+EBGBMB3SK3WCLBBBBGBDBGBKCPBCBEBBBEDBBLF1",
     "NDJBOBOBbUCePDTC1TBEB16+BMBiZBBB3fbG8AND;B1=GMCOBCKS1Z*PKBUBCJBEJdSF9:I8K1Q4A3UM2V1LME1Y",
     "IKG1II:2SM1PBKBdZ8Av:"]),
   ("ext extender",
    ["5XBgYCrOBdZBq+BnQB3;B2aDB1YBjDBcOB2EB4sJB1LF3HC2.DroWB1fWBuCBWB4JB3MBVCl3*B20QC2u+BjID16",
     "PBk5JC14=CBBsaYC20GD"]),
   ("grbase graphemebase",
    ["1A2;1BNBiS3QICGEHBBBUB7AH5GB1GC1SCD1OBBBCBCBJ*EGRKLBB1OVQB3FIBGCCBE1ACBB:.2ZLBO1LJHDYEBJ",
     "BDBHPBZFBBLF;R1K1Z1XBBBEIEBDHKC.BCBICCCWBHBBDEDBBCGCCCBBNCBDEYFBBGECCWBHBCBCBCEDYEBBHKCD",
     "BBMBBJBDBWBHBCBFDEIBBCDBPCEMHBICBICCCWBHBCBFDBCBGCCCPCBDESLBBGDDBEDCBBBCDCDDDMFBBCDDBDDB",
     "VVGDBIBDBXBQDBDETDCBCCEKHKBLBDBXBKBFDCBCBCCCBCRCBCEKBDOLBDB1JCBBCFDBDBCEDBKE+CCBSDYBJBBC",
     "HJCGHHKCDM1QBCLIIN1FCBBBFBYBBBKBCJBCFBBJKCE1AYC*BBBBBOB1ESBFBCF1RIBGBN1F1NEBGBCCCZCEDQEN",
     "BCCGBPB1IBBFBCbZBECHBBBEC1JBEC1BBECHBBBECPB1ZBEC2DF.D+G2WCGCk.D2ZHSDBJTCDJSONBDP1UCBHIBC",
     "LJDKGKGLFKG2ZHFC1CBBF2GK;EECDECBGHBD1KCFL1ME+GLD1ZCCD1YBBJBBCIGNKGKGO2W1QHBBFBKD*JLD1AEC",
     "CBD1YBBCDBBDCI1QICFPD1=H1LCLLBNBHEBGBDCBF6A2A8WCGC1GCGCIBBBBBBB;C1VBPBOCGBTCDBJBLFYH1RQC",
     "C*BND1B1;4MEkXZLV1oUC1ABaYDCF1NBBFBC1YHCPXJHBHBHBHBHBHBHBH1B2:1C+B2ZM6W+ME1KGQB2WE3FF1LB",
     "2:B2UM1PBsjND1XJa=U1PEBK1AC2QCGI6LFCBBBFYQBDBEBZCFEKG1YI2EKMYNB1GIZLCL:G1QBCECCQBLEHBZB1",
     "JGCCCLDBIBBCKC1AB1TBBDCCFCBBBYRCILGCGCGJHBHB1=E3VBCBEDKGatEMXE1R88EbOC3K1GHMFFBBYBFBBBCB",
     "CB3.Qd.C1WHB1AQQKW1DBTBEEFB4HE4.C;DGCGCGCDDHBHNCCMB+BTBCBPCO1C3*FDE1ND2YBNDB1P1N4D.D1RQ*",
     "E1EJ:F1GK:B1FEO1K4:CKG1EE1EE1II1ULMBPBHBCBLBPBHBC2D9XJWKIYGB1KBJ2FGCBB1MBCDBCXB2IIJ1QTBC",
     "F1BD*FB2A1YEUC1PPEBDB.KJHJH2A1A1FGMJ1WD.C*F+HEMH2Q2J1X1TN1TH1KMK9G;B1KDBCC2O1IIWLJWSEE1G",
     "=UXJBB1WPHE:BCCBM1RECCCBEOZHKJ1EFBJSI1DBDL1UJKECBQBULSB=DCBBCGBC1;HBBBEBPBLG1PBDNKICBICC",
     "CWBHBCBFDBBBBECCCDCBMH4=1YICDBBVBBBD:1QBCGBBCBBCBCEIK5G1PBCGECBC*1E1TICBBCELKGNT1LBBBCGB",
     "BCGK1W*FCEBJX5Z1PJBCB3E2TMICBCIBCBYBFBCEBBEBDJK2GIC1KIEBE*BK1IGCEIJBGCD1ONBCJN2JHK7WJB1G",
     "OBBGK.D1AZBHBCB2LHBCB1GVBJKGGBCB1FECBBBBHK9WTCEJPB1EICBBBX2WBP1SNs*3G3PBFL6E2iM3DN11QRG3",
     "tZiH8dZhZH;BKE2RBKG:HBK1QHPKKBHBVFTlQ2*3F2LF1YLN2AEMCO5vYI16W1KJ8nHEBHBCB9DPB.DCBOEIcM28",
     "E3LFNDJHKCBCB4lQ3U1=7WK1HC1=BBDEVCH:E1.V2CDB3+UMUM2XJZ4H2VB2HBCCBCCCEBMBBBHB2BBECIBHB=BE",
     "BFBBDHBaUC9EChS1XE1SIBOBH13U;GG8F1:4S1NKHCKECaA:S1MEKFBeQ=EKnGHBEBCBPB6FCJ1Q2EHBEKECoR2E",
     "2M1.6CEB*BCBBCBBKBEBBBBGBEBBBBBBDBCBBCBBBBBBBBBBCBBCEBHBEBEBBBKBRFDBFBR1UC8O1ME3EMPCPBPB",
     "1FK5O1Y.N1MEJHCOG4+uYERDND3XE2;GMEBPME1YIKG1II:CC2OaUMOCNDJH1OBHIOEJHJH4TB1X1FK10G19nA1A",
     "41+G6:C5kCO79R30;g:1fC4qLF43A"]),
   ("grext graphemeextend",
    ["oA3Q8TH8H1NBBBCBCBB2IL1QVQB3FHCGCCBE1DB:*2*L1+JJBYEBJBDBF1LD1=I1KYB1A1XBBBEIEBDHKC.B1+BB",
     "BCEIBJBKC+BCC1ZBECECCDDB:CDBLC1ZBEFBCEBUCWGBB1+BBCBEIBHDKC:B1*BBBMBJB1IBDB1XBBDFDBEHCLC.",
     "B1+BCBCBDBFCHCLC=C1ZCBBCEIBJBKC.B2IBEBCDBBIB2RBCHMI3CBCJLH2JC*BBBBB1XOBFBCFLB1EJB3GEBGBC",
     "CCZCEDQENBCCGBPBl;DtSD.C:C:C2ACBHIBCLJB1NDBB3VC1CB3WDECJBGD6*CCB1+BBHBBBBCIGKCB1Q;1RE1QH",
     "BBFB1IJMC1AECCBD1YBBCDBBD1+ICC4YDBNBHEBGBDC6G2AgMB6D1B2v:D4NB3A1AhKG3JCteUEBK1AC2QC8QBDB",
     "EBZCFB4XC+SNB1GIZL1OD1QBCECC1HB2DGCCCCMBIB1PB1TBBDCCFCBB1KCIB7OBCBEBjpQBnBQQQbOCi.B7CB4V",
     "F1kGDBCFE1IDEB5FCh.EcDC2QD2GL1RE3*B1WP1JBCCKD1RECCHB1.D1EFBI1:BMC1UJKECB2;DCBBCGBCB4.BDI",
     "VC1ZCBBBBWBOHDF6DICDBBXB2RBCGBBCBBCBC7LBCEGCBC*C2VICBBC3KBBBCGBB3FDCEBF8DJBC7VBKCBBEB4QE",
     "CCEB1AK1IGCEIBJGCD1ONBCcWHBGBB2SWCHBCBC3+GDBBCBHBB2ICDBBBa*CLC1UFFBBB57.BGPdk+F1*H10YB1;",
     "E2RBj5YC4jB1OCXg:BBDEFIICH:E4UD1t*1XE1SIBOBWFBP1aQHBRCHBCBF3EB5AHbXB1.Ef=EvAH3NHo5mV3A4A",
     "7Q"]),
   ("hex hexdigit",
    ["1QKHG+G1vlJKHG+G"]),
   ("idc idcontinue",
    ["1QKH+EBB+1PBKBBBCBFXB;BeKEMOFHBBBR3VBCCEBBGFBBBUB2TB4LBFC5GB1GCBG1JI1NBBBCBCBBI*EE.LF2KE",
     "3GBICKBTCBQ1*C3FO1WEBCBC1OS=ELFYBGJ2KB4BCKBTBICCCWBHBBDECJCCCEIBECBFCMKBBBCDBGECCWBHBCBC",
     "BCCBBFECCDDBHEBBHQLDBJBDBWBHBCBFCKBDBDCBPECKJHBDBICCCWBHBCBFCJCCCDHDECBFCKBBQCBGDDBEDCBB",
     "BCDCDDDMEFDDBECBGBOKQNBDBXBQCJBDBEHCBDCBCECKQEBIBDBXBKBFCJBDBEHCGCBECKBDMNBDB1TBDBFFEHFC",
     "KKGBDBSDYBJBBCHDBEGBBBIGKCCN1+FPBK1HCBBBFBYBBBXCFBBBHBKCE1ABXCGKLBBBBBEKB1EEUBSB1EJB1Z2K",
     "G2OC1GBBFBC1LBaNBECHBBBEC1JBEC1BBECHBBBECPB1ZBEC2DCDJJOQQ2WCGDjMCRB+F2LDLHWJWLUMNBDBCM2U",
     "DBECCK1BDBLG2ZH1LF2GK;BMEMK1ICFL1ME+GL1F=E1;B.CLGKNBIOBQ1R2NDKRJM3UM1YIKD1RCJH1LCDQDB1HF",
     "gWCGC1GCGCIBBBBBBB;C1VBHBBDDBHDECGENFDBH2CCTB=BNBQN1TNEBDMRBEBCKBBCGGBBBBBBQCEFFEBR1J2jX",
     "7FGJM1GBBFBC1YHBPYJHBHBHBHBHBHBHBHB1AgFDZPBFCFE2WCHB2+BEF1LB2:R1A1QQgA6eA2AlkN2D1OC8ND=U",
     "1QEKB3T1FJC3HC2AFCBBBFY1WEBT1UM2GKKGYDBB1RC1EM.D2BOLG;B1XJOCKGXD2JYDCQCFKGCGCGJHBHB1LBOG",
     "3*BCCKGatEMXE1R88EbOC3K1GHMFFMBNBFBBBCBCB3M1BbLS2AC1W1IMEQQQDCYD1AFB4HTKH+EBB+L2ZDGCGCGC",
     "D1DMB+BTBCBPCO1C3*2F1V4IB4C.D1RPB;1AN:F1LF:C1EEIBF1K4:CKG1EE1EE1II1UMLBPBHBCBLBPBHBC2D9X",
     "JWKIYGB1KBJ2FGCBB1MBCDBCXKXJ;2BTBCKWK+2G1YGC2AEBCFIBDB.CDEB1A.D.1DIB:Z1WKWKTNS3O2J1X1TN1",
     "TN1IIKaG1KBCDC2L1AKBI1B;W1KV*XJ2H;QJ1=HBNZHKG1VBKEEI1ECBJ2FEEBNBB1DSB1FGE1:HBBBEBPBKH1*F",
     "KGEBICCCWBHBCBFBKCCCDCBGBFHCHDF4L2LFKEE:2GBBIK5G1WCJXG1C2BDBLK1G1ZHK1W*CPEKGH5Z1*3F2KVIC",
     "BCIBCB:BCCJMK2GIC1OCIBC*1;IBI2KDBS2J8HJB1NBJPKY:CWBO2JHBCB1MDBBCBJIKGGBCB1FBCBGHK9WXJRB1",
     "JDFNK2WB2Ps+3G3PR6E2iM3BP11QQW3tKiH8dZhZH;BKG2PBKG:CFL1XJEMKJVFTlQ2A4A2LE1ZHR2ACBCLCO5vY",
     "I16W1KJ8nHEBHBCB9DPB.DCBOEIcM28E3LFNDJHKDC4jB1OCXg:FDGIICH:E4UDd*2VB2HBCCBCCCEBMBBBHB2BB",
     "ECIBHB=BEBFBBDHBaUCZBZB;BZB;BZB;BZB;BZBIC1SgA1XE1SIBOBWFBP12Q;GG6VHBRCHBCBFF1:1BB3Q1NDOC",
     "KEBaB;R1+eW1KnGHBEBCBPB6FLH1J2MEK15GEB*BCBBCBBKBEBBBBGBEBBBBBBDBCBBCBBBBBBBBBBCBBCEBHBEB",
     "EBBBKBRFDBFBR39UK10G19nA1A41+G6:C5kCO79R30;g:1fC4qLF43AlnaQ7Q"]),
   ("ids idstart",
    ["2B+G+1PBKBEBFXB;BeKEMOFHBBB4BFBCCEBBGBBDBBBUB2TB4LI5GB1GCBG1J2H*EE1N1L1DCB3DBBPCHCKDCBQB",
     "B:.2ZLBY1BJCEBFWEBJBDBXZHLFYBGR1K1+1WDBSBHKPQEICCCWBHBBDEDBQBNCBDOCKBIGECCWBHBCBCBC;EBBT",
     "DQJBDBWBHBCBFDBSBPCXBLICCCWBHBCBFDB:CBDPBRBBGDDBEDCBBBCDCDDDMWB1UIBDBXBQDB+DCBCC:BEIBDBX",
     "BKBFDB;CBCPCRJBDB1JCBQBFDIDYGFSDYBJBBCH1+1QBCMH1+CBBBFBYBBBKBCJBCFBBVE1AB1;IB1E*F3T1LUBQ",
     "GEEDBDCHDENMBR1GBBFBC1LBaNBECHBBBEC1JBEC1BBECHBBBECPB1ZBEC2D1FQQ2WCGDjMCRB+F2LDLHSNTOSON",
     "BDP1U1DBEB2D2ZH1JBBF2GK;1R:CFL1ME+1WXJ1V2SB2.1PRI1W:NCK1M+1E1JDK1ECJH1LCD1JEBGBCDBF6A2A8",
     "WCGC1GCGCIBBBBBBB;C1VBHBBDDBHDECGENFDBH3UBNBQN3FBEBCKBBCGGBBBBBBQCEFFEBR1J2jX7FGEDCM1GBB",
     "FBC1YHBQXJHBHBHBHBHBHBHBHhGDZJHFCFE2WEFB2+BEF1LB2:R1A1QQgA6eA2AlkN2D1OC8NDQKCU1PQ;C2Q1HJ",
     "C3HC2AFCBBBFYQBDBEBX.1UO1S1:GDBBCL=KXZ.H1P=BQFBKKFB1JXDBIUXDBD1SBBDCCFCBBBYDCLHDMGCGCGJH",
     "BHB1LBOG3T.atEMXE1R88EbOC3K1GHMFFBBKBNBFBBBCBCB3M1BbLS2AC1W1IM3UFB4H1E+G+L2ZDGCGCGCD1DMB",
     "+BTBCBPCO1C3*2F1V8L.D1R1P1AN:F1GK:C1EEIBF1K4:S1EE1EE1II1UMLBPBHBCBLBPBHBC2D9XJWKIYGB1KBJ",
     "2FGCBB1MBCDBCXKXJ;2BTBCKWK+2G1YGC2ABPEBDB.1K.D.1DIB=*1WKWKTNS3O2J1X1TN1TN1Ea=1KGC2O.KBIW",
     "1KS1OV*XM1V1ZCCBN1N1AZ+1E.BCBI1DDBM1QOEVBBB1DSBZTC1;HBBBEBPBKH1P1GICCCWBHBCBFDBSBMF4:1VS",
     "EUD:1QUCBB5Y1P1JE1E1QUB1*1LNB2H*1FH5Z1M3U2A;ICBCIBCBYPBBB2:IC1HQBBB=BK1IHBVBL1OTBS2J8HJB",
     "1FRB1R:3QHBCB1GVBZGBCB1AOBaHTPBBNB1C3=B2Ps+3G3PR6E2iM3BP11QRG3tZiH8dZhZH;R2PR:S1QQE;VFTl",
     "Q2A4A2LFB2CN2ACBB=5vYI16W1KJ8nHEBHBCB9DPB.DCBOEIcM28E3LFNDJHK5rG2VB2HBCCBCCCEBMBBBHB2BBE",
     "CIBHB=BEBFBBDHBaUCZBZB;BZB;BZB;BZB;BZBI1pU;GG8F1:4S1NKHQBaB:S1MfE=nUHBEBCBPB6F1*2EHB15UE",
     "B*BCBBCBBKBEBBBBGBEBBBBBBDBCBBCBBBBBBBBBBCBBCEBHBEBEBBBKBRFDBFBR4aE19nA1A41+G6:C5kCO79R3",
     "0;g:1fC4qLF43A"]),
   ("ideo ideographic",
    ["c0GCZJODuF6eA2AkgAm8AbOC3Kt8KB*5vYI16W1KJ93HcMj8E19nA1A41+G6:C5kCO79R30;g:1fC4qLF43A"]),
   ("idsb idsbinaryoperator",
    ["bvQCCI"]),
   ("idst idstrinaryoperator",
    ["bvSC"]),
   ("joinc joincontrol",
    ["80MC"]),
   ("loe logicalorderexception",
    ["3iAF3*F2nQDCB147+CCBBC"]),
   ("lower lowercase",
    ["3B+1PBKBEB1EYBIBBBBBBBBBBBBBBBBBBBBBBBBBBBBBBBBBBBBBBBBBBBBBBBBBBBBBBBCBBBBBBBBBBBBBBBCB",
     "BBBBBBBBBBBBBBBBBBBBBBBBBBBBBBBBBBBBBBBBBBBBBCBBBBDCBBBCBDCEBCBDDCBCBBBBBCBBCBBCBDBBBCCC",
     "DGBCBCBBBBBBBBBBBBBBBBCBBBBBBBBBBBBBBBBBCCBBBDBBBBBBBBBBBBBBBBBBBBBBBBBBBBBBBBBBBBBBBBBB",
     "BBBBBBBBBBBBBBBBHCBCCBBEBBBBBBBB2FB1EHC:F3AB1LBBBDBCESB*1DBCDDBBBBBBBBBBBBBBBBBBBBBBBFBB",
     "CBCC1T1QBBBBBBBBBBBBBBBBBBBBBBBBBBBBBBBBBBJBBBBBBBBBBBBBBBBBBBBBBBBBBBBBBBBBBBBBBBBBBBBB",
     "BBBBBBBBCBBBBBBBBBBBBCBBBBBBBBBBBBBBBBBBBBBBBBBBBBBBBBBBBBBBBBBBBBBBBBBBBBBBBBBBBBBBBBBB",
     "BBBBBBBBBBBBBBBBBBBBBBBBBBBBBB1Q1J2qH1LBEnYG24CJ3X6A2BBBBBBBBBBBBBBBBBBBBBBBBBBBBBBBBBBB",
     "BBBBBBBBBBBBBBBBBBBBBBBBBBBBBBBBBBBBBBBBBBBBBBBBBBBBBBBBBBBBBBBBBBBBBBBBBBBBBBBBBBBBBBBB",
     "BBBBBBBBBBBBBBBBBBBBBBBBBBJBBBBBBBBBBBBBBBBBBBBBBBBBBBBBBBBBBBBBBBBBBBBBBBBBBBBBBBBBBBBB",
     "BBBBBBBBBBBBBBBBBBBBBBBBBBBBBBBBBBBBJIGKIIIIGKIIIIOCIIIIIIFBCGBDDBCIECCIIKDBC3ZBNBQN3NBD",
     "CDB*BEBEBCCIEEB1BQEBqL+1qG1QBBDCBBBBBBEBBCBIDBBBBBBBBBBBBBBBBBBBBBBBBBBBBBBBBBBBBBBBBBBB",
     "BBBBBBBBBBBBBBBBBBBBBBBBBBBBBBBBBBBBBBBBBBBBBBBBBBBBBBBCHBBBEBM1GBBFBu8TBBBBBBBBBBBBBBBB",
     "BBBBBBBBBBBBBBBBBBBBBBBBBBBBBTBBBBBBBBBBBBBBBBBBBBBBBBBBD4FBBBBBBBBBBBBDBBBBBBBBBBBBBBBB",
     "BBBBBBBBBBBBBBBBBBBBBBBBBBBBBBBBBBBBBBBBBBBBBKBBBBCBBBBBBBBBEBBBCBBDBBBBBBBBBBBBBBBBBBBB",
     "FBFBBBBBBBBBBBBBBBEBBBGBBBBBBBBBYDBBBDpV1LBOG2QjqAHMF11J+16N1I4I1E4*LBPBHBCeDBCDB1KBJ18F",
     "1T2uN1AlcA1Apc+++HBS+++EBBBHBL+++++++++++++++++==ZBG+ZBG+ZBG+ZBG+ZBGBB1pUKBUGG8F1:25U1C"]),
   ("math",
    ["1LBQD;B.BBB1NBEB1FB;BmYDCB+CCDgPD6gNB*DLBDBNBOEVFLF2BNEBDCEFSBEBCKBBCGGBDCCCBDBGDOBB2EYB",
     "GBCECE1ABBGCO8MIEUC2+B:*BBYBLHd.CMKEGECCCDFOBBBCGLIFC1ZBBB.EJDaQ2A8AgA1QVCG1ju=BpXGBB5CB",
     "QD.BBB.BBB4DBGE1l0T2VB2HBCCBCCCEBMBBBHB2BBECIBHB=BEBFBBDHBaUC9EC1S5gAEB*BCBBCBBKBEBBBBGB",
     "EBBBBBBDBCBBCBBBBBBBBBBCBBCEBHBEBEBBBKBRFDBFBR1UC"]),
   ("nchar noncharactercodepoint",
    ["1veQ1AgOC1vv:C1vv:C1vv:C1vv:C1vv:C1vv:C1vv:C1vv:C1vv:C1vv:C1vv:C1vv:C1vv:C1vv:C1vv:C1vv:"]),
   ("patsyn patternsyntax",
    ["1BPKH+EBB+E1CHBBBCBBBCEBEBDBXB;B7oYYIPCTBK9RmQ5AjW:13MgA4AcBDEZPB1j8NC8FC"]),
   ("patws patternwhitespace",
    ["JFSB3EB7sICYC"]),
   ("pcm prependedconcatenationmark",
    ["1gAG6XB1RBcAC2QB21u+BPB"]),
   ("qmark quotationmark",
    ["1CBEB4DBPB7q=IZC3gHBeJEND1jhBE5.BEB2+C"]),
   ("radical",
    ["bkA+B2ZM6W"]),
   ("ri regionalindicator",
    ["3sfG+"]),
   ("sterm sentenceterminal",
    ["1BBMBQB1aJB4TD5UB1LD7WB1.BBBDC9FC1nECoWBECoFB6GC6MBFB9+CbCE5OCCC.C5=C2BCt=CJD3fEBNBWCdNB",
     "t7=B8OC7DBDBb:C2WC2;B4YC4TD4QC7ZBkjGBDC5JBMBQB2BB2nUC17.F1ME5.C3VE3;D4BCGBQC2YCBC3MBdBCb",
     "VCFP3JC7ZDgFBBB7*C2XCdEClUC2KCipJC4FB2BCLBqTBjgGB7fIB"]),
   ("sd softdotted",
    ["3JC6EB8ZB:B1UBUBaAB3CBBB68JB1TBNBDB4EB4.BdFB6WC2pSB39tFC1SC1SC1SC1SC1SC1SC1SC1SC1SC1SC1S",
     "C1SC24GB9RC+B"]),
   ("term terminalpunctuation",
    ["1BBKBBBLCDBp:BIBgBB1ZB2IBOBBD5UB1LLBB7LC1WP;B8FC17UC5MBEG9XCoVIoFB3=D2HC4.DDB1HECC9+CbCE",
     "5OCBD.C5=F1:Ct=CJD3fEBNBEBKBBCDCdMCt7*C8ND7DFb:C2WC2;B4XD4TD3;BQC7ZBkjEDBE5JBKBBBLCDB2BB",
     "CB11+B1QB14GB6HB9WC4YG2EG2ZEtYF1ME5.H3QE3;D4BCGBQC2YF3MBdBDMCbGEDP3JC7ZDgFBBB7*C2XCECc:D",
     "1NBkFC2KC19LFhfZC4FB2BDKBqSCjgGB7fHE"]),
   ("uideo unifiedideograph",
    ["d0A6eA2AkgAmgOCBBBCKBBBBCCD21eW19nA1A41+G6:C5kCO79R50;4qLF43A"]),
   ("upper uppercase",
    ["2B+3FXBH1BBBBBBBBBBBBBBBBBBBBBBBBBBBBBBBBBBBBBBBBBBBBBBBBBBBBBBBBCBBBBBBBBBBBBBBBCBBBBBB",
     "BBBBBBBBBBBBBBBBBBBBBBBBBBBBBBBBBBBBBBBBCBBBBDCBBBCBDCEBCBDDCBCBBBBBCBBCBBCBDBBBCDBHBCBC",
     "BCBBBBBBBBBBBBBBBCBBBBBBBBBBBBBBBBBCBCBBDBBBBBBBBBBBBBBBBBBBBBBBBBBBBBBBBBBBBBBBBBBBBBBB",
     "BBBBBBBBBBBHCBCCBBEBBBBBBBB9BBBBDBIBGBBDBBBCBRBJ1DBCDDBBBBBBBBBBBBBBBBBBBBBBBFBCBBCC1T1Q",
     "BBBBBBBBBBBBBBBBBBBBBBBBBBBBBBBBBJBBBBBBBBBBBBBBBBBBBBBBBBBBBBBBBBBBBBBBBBBBBBBBBBBBBBBB",
     "CBBBBBBBBBBBBCBBBBBBBBBBBBBBBBBBBBBBBBBBBBBBBBBBBBBBBBBBBBBBBBBBBBBBBBBBBBBBBBBBBBBBBBBB",
     "BBBBBBBBBBBBBBBBBBBBBC1G2qJ1GBBFBmS2W24+1LCDaABBBBBBBBBBBBBBBBBBBBBBBBBBBBBBBBBBBBBBBBBB",
     "BBBBBBBBBBBBBBBBBBBBBBBBBBBBBBBBBBBBBBBBBBBBBBBBBBBBBBBBBBBBBBBBBBBBBBBBBBBBBBBBBBBBBBBB",
     "BBBBBBBBBBBBBBBBBBBJBBBBBBBBBBBBBBBBBBBBBBBBBBBBBBBBBBBBBBBBBBBBBBBBBBBBBBBBBBBBBBBBBBBB",
     "BBBBBBBBBBBBBBBBBBBBBBBBBBBBBJIIGKIIIIGLBBBBBBBII2IEMEMEMFLE8GBEBDDCDCBDFGBBBBBBECEKCFB+",
     "QTBpS+1pQ1Q1QBBDCBBBBBBEBBCBIDBBBBBBBBBBBBBBBBBBBBBBBBBBBBBBBBBBBBBBBBBBBBBBBBBBBBBBBBBB",
     "BBBBBBBBBBBBBBBBBBBBBBBBBBBBBBBBBBBBBBBBIBBBEBuaNBBBBBBBBBBBBBBBBBBBBBBBBBBBBBBBBBBBBBBB",
     "BBBBBBTBBBBBBBBBBBBBBBBBBBBBBBBBBB4HBBBBBBBBBBBBBDBBBBBBBBBBBBBBBBBBBBBBBBBBBBBBBBBBBBBB",
     "BBBBBBBBBBBBBBBBBBBBBBBKBBBBCBBBBBBBBEBBBCBBBDBBBBBBBBBBBBBBBBBBBBFBFBBBBBBBBBBBBBBBEBBG",
     "BFBBB=BlpL+16F1I4I1E4=LBPBHBC1nK1T2vN1AlcA1ApdA++++++BBCCBCCCEBI+++CBECIBH*CBEBFBBDH*+++",
     "++++++++:Z1BZ1BZ1BZ1BZ1BB49V1C20O+G+G+"]),
   ("vs variationselector",
    ["60LDBB1pfQQq0nQ7Q"]),
   ("wspace whitespace space",
    ["JFSB3EB+B5e;B2b;L.CFB1PB3tAB"]),
   ("xidc xidcontinue",
    ["1QKH+EBB+1PBKBBBCBFXB;BeKEMOFHBBBR3VBCDDBBGFBBBUB2TB4LBFC5GB1GCBG1JI1NBBBCBCBBI*EE.LF2KE",
     "3GBICKBTCBQ1*C3FO1WEBCBC1OS=ELFYBGJ2KB4BCKBTBICCCWBHBBDECJCCCEIBECBFCMKBBBCDBGECCWBHBCBC",
     "BCCBBFECCDDBHEBBHQLDBJBDBWBHBCBFCKBDBDCBPECKJHBDBICCCWBHBCBFCJCCCDHDECBFCKBBQCBGDDBEDCBB",
     "BCDCDDDMEFDDBECBGBOKQNBDBXBQCJBDBEHCBDCBCECKQEBIBDBXBKBFCJBDBEHCGCBECKBDMNBDB1TBDBFFEHFC",
     "KKGBDBSDYBJBBCHDBEGBBBIGKCCN1+FPBK1HCBBBFBYBBBXCFBBBHBKCE1ABXCGKLBBBBBEKB1EEUBSB1EJB1Z2K",
     "G2OC1GBBFBC1LBaNBECHBBBEC1JBEC1BBECHBBBECPB1ZBEC2DCDJJOQQ2WCGDjMCRB+F2LDLHWJWLUMNBDBCM2U",
     "DBECCK1BDBLG2ZH1LF2GK;BMEMK1ICFL1ME+GL1F=E1;B.CLGKNBIOBQ1R2NDKRJM3UM1YIKD1RCJH1LCDQDB1HF",
     "gWCGC1GCGCIBBBBBBB;C1VBHBBDDBHDECGENFDBH2CCTB=BNBQN1TNEBDMRBEBCKBBCGGBBBBBBQCEFFEBR1J2jX",
     "7FGJM1GBBFBC1YHBPYJHBHBHBHBHBHBHBHB1AgFDZPBFCFE2WCCCDB2+BEF1LB2:R1A1QQgA6eA2AlkN2D1OC8ND",
     "=U1QEKB3T1FJC3HC2AFCBBBFY1WEBT1UM2GKKGYDBB1RC1EM.D2BOLG;B1XJOCKGXD2JYDCQCFKGCGCGJHBHB1LB",
     "OG3*BCCKGatEMXE1R88EbOC3K1GHMFFMBNBFBBBCBCB3M1B4LG6+S2AC1W1IKGQQQDCYD1BBBBDBBBBBBBB3:TKH",
     "+EBB+L2ZDGCGCGCD1DMB+BTBCBPCO1C3*2F1V4IB4C.D1RPB;1AN:F1LF:C1EEIBF1K4:CKG1EE1EE1II1UMLBPB",
     "HBCBLBPBHBC2D9XJWKIYGB1KBJ2FGCBB1MBCDBCXKXJ;2BTBCKWK+2G1YGC2AEBCFIBDB.CDEB1A.D.1DIB:Z1WK",
     "WKTNS3O2J1X1TN1TN1IIKaG1KBCDC2L1AKBI1B;W1KV*XJ2H;QJ1=HBNZHKG1VBKEEI1ECBJ2FEEBNBB1DSB1FGE",
     "1:HBBBEBPBKH1*FKGEBICCCWBHBCBFBKCCCDCBGBFHCHDF4L2LFKEE:2GBBIK5G1WCJXG1C2BDBLK1G1ZHK1W*CP",
     "EKGH5Z1*3F2KVICBCIBCB:BCCJMK2GIC1OCIBC*1;IBI2KDBS2J8HJB1NBJPKY:CWBO2JHBCB1MDBBCBJIKGGBCB",
     "1FBCBGHK9WXJRB1JDFNK2WB2Ps+3G3PR6E2iM3BP11QQW3tKiH8dZhZH;BKG2PBKG:CFL1XJEMKJVFTlQ2A4A2LE",
     "1ZHR2ACBCLCO5vYI16W1KJ8nHEBHBCB9DPB.DCBOEIcM28E3LFNDJHKDC4jB1OCXg:FDGIICH:E4UDd*2VB2HBCC",
     "BCCCEBMBBBHB2BBECIBHB=BEBFBBDHBaUCZBZB;BZB;BZB;BZB;BZBIC1SgA1XE1SIBOBWFBP12Q;GG6VHBRCHBC",
     "BFF1:1BB3Q1NDOCKEBaB;R1+eW1KnGHBEBCBPB6FLH1J2MEK15GEB*BCBBCBBKBEBBBBGBEBBBBBBDBCBBCBBBBB",
     "BBBBBCBBCEBHBEBEBBBKBRFDBFBR39UK10G19nA1A41+G6:C5kCO79R30;g:1fC4qLF43AlnaQ7Q"]),
   ("xids xidstart",
    ["2B+G+1PBKBEBFXB;BeKEMOFHBBB4BFBCDDBBGBBDBBBUB2TB4LI5GB1GCBG1J2H*EE1N1L1DCB3DBBPCHCKDCBQB",
     "B:.2ZLBY1BJCEBFWEBJBDBXZHLFYBGR1K1+1WDBSBHKPQEICCCWBHBBDEDBQBNCBDOCKBIGECCWBHBCBCBC;EBBT",
     "DQJBDBWBHBCBFDBSBPCXBLICCCWBHBCBFDB:CBDPBRBBGDDBEDCBBBCDCDDDMWB1UIBDBXBQDB+DCBCC:BEIBDBX",
     "BKBFDB;CBCPCRJBDB1JCBQBFDIDYGFSDYBJBBCH1+1QBBNH1+CBBBFBYBBBKBBKBCFBBVE1AB1;IB1E*F3T1LUBQ",
     "GEEDBDCHDENMBR1GBBFBC1LBaNBECHBBBEC1JBEC1BBECHBBBECPB1ZBEC2D1FQQ2WCGDjMCRB+F2LDLHSNTOSON",
     "BDP1U1DBEB2D2ZH1JBBF2GK;1R:CFL1ME+1WXJ1V2SB2.1PRI1W:NCK1M+1E1JDK1ECJH1LCD1JEBGBCDBF6A2A8",
     "WCGC1GCGCIBBBBBBB;C1VBHBBDDBHDECGENFDBH3UBNBQN3FBEBCKBBCGGBBBBBBQCEFFEBR1J2jX7FGEDCM1GBB",
     "FBC1YHBQXJHBHBHBHBHBHBHBHhGDZJHFCFE2WGDB2+BEF1LB2:R1A1QQgA6eA2AlkN2D1OC8NDQKCU1PQ;C2Q1HJ",
     "C3HC2AFCBBBFYQBDBEBX.1UO1S1:GDBBCL=KXZ.H1P=BQFBKKFB1JXDBIUXDBD1SBBDCCFCBBBYDCLHDMGCGCGJH",
     "BHB1LBOG3T.atEMXE1R88EbOC3K1GHMFFBBKBNBFBBBCBCB3M1B4LG6+S2AC1W1IK3XBBBDBBBBBBBB3:1E+G+L1",
     "YC;DGCGCGCD1DMB+BTBCBPCO1C3*2F1V8L.D1R1P1AN:F1GK:C1EEIBF1K4:S1EE1EE1II1UMLBPBHBCBLBPBHBC",
     "2D9XJWKIYGB1KBJ2FGCBB1MBCDBCXKXJ;2BTBCKWK+2G1YGC2ABPEBDB.1K.D.1DIB=*1WKWKTNS3O2J1X1TN1TN",
     "1Ea=1KGC2O.KBIW1KS1OV*XM1V1ZCCBN1N1AZ+1E.BCBI1DDBM1QOEVBBB1DSBZTC1;HBBBEBPBKH1P1GICCCWBH",
     "BCBFDBSBMF4:1VSEUD:1QUCBB5Y1P1JE1E1QUB1*1LNB2H*1FH5Z1M3U2A;ICBCIBCBYPBBB2:IC1HQBBB=BK1IH",
     "BVBL1OTBS2J8HJB1FRB1R:3QHBCB1GVBZGBCB1AOBaHTPBBNB1C3=B2Ps+3G3PR6E2iM3BP11QRG3tZiH8dZhZH;",
     "R2PR:S1QQE;VFTlQ2A4A2LFB2CN2ACBB=5vYI16W1KJ8nHEBHBCB9DPB.DCBOEIcM28E3LFNDJHK5rG2VB2HBCCB",
     "CCCEBMBBBHB2BBECIBHB=BEBFBBDHBaUCZBZB;BZB;BZB;BZB;BZBI1pU;GG8F1:4S1NKHQBaB:S1MfE=nUHBEBC",
     "BPB6F1*2EHB15UEB*BCBBCBBKBEBBBBGBEBBBBBBDBCBBCBBBBBBBBBBCBBCEBHBEBEBBBKBRFDBFBR4aE19nA1A",
     "41+G6:C5kCO79R30;g:1fC4qLF43A"])]

end Patternwork.Unicode
