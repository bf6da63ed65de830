namespace Patternwork.Unicode

/-- The versions in which code points were assigned. -/
def ageNames : List String :=
  ["1.1 v11",
   "2.0 v20",
   "2.1 v21",
   "3.0 v30",
   "3.1 v31",
   "3.2 v32",
   "4.0 v40",
   "4.1 v41",
   "5.0 v50",
   "5.1 v51",
   "5.2 v52",
   "6.0 v60",
   "6.1 v61",
   "6.2 v62",
   "6.3 v63",
   "7.0 v70",
   "8.0 v80",
   "9.0 v90",
   "10.0 v100",
   "11.0 v110",
   "12.0 v120",
   "12.1 v121",
   "13.0 v130",
   "14.0 v140",
   "15.0 v150"]

/-- The runs of equal version; unassigned code points have the number after the last
    version. -/
def ageRuns : List String :=
  ["AAfWDEA:DIFBGBDSGDHLIOA2ZDFGCA1PDBAKDFGRA2GDJFBGIHFGDACDBFNJEACJCZCABIDABPBZEAHZBABZBAUZ",
   "BA1MJBAHDBFCABDBABDBABDBABDBASECFBGFHEDBAMDBA2CDBAMDBA1JJBDCFCDEA1VFCACFCACFCIBA=DCAIHCA",
   "CIGFQIEJQKCLCPIZBA1GZCAHTBA1HTBABDBZCPCMBZBBRHBBNAKIBAJBBHDZIA*ZETBAFZLGEMBPBJFHBABGJJFA",
   "BOBXBHBABLBA+JFATDDGDHGLBAOFCA2IDCAFDBAPDBA:GCAKDFGBDOZBD:GDD*ZCGDH:JSD1RFBZOI1*ZCTDK1OZ",
   "CKPZBL=ZCLBZBSLZFX;ZBXCZGXIMBPBMLPGQCXBRIWKXLTBRPQBM*PBKBADGBA1VLCASKBLBAFKBLCAZJCLFPBKC",
   "ICHBICPBADZBAIZCACZCAWZBAHZBABZDAEZCABGBAHZCACZCADHBZIABZEACZBAFZCAVKBSCTBZCGBABGBZBAGZE",
   "ACZCAWZBAHZBACZBACZBACZCABZBAFZEACZCADZDJBZHAEZBABZHAPJBTBZKADZBAHGBABZBADZBAWZBAHZBACZB",
   "AFZCAKZBADZBADZCABZPABGDZCAKMBGBZHQBSGZBADZBAIZCACZCAWZBAHZBACZBGBAEZCAIJBZCACZCADZHWBAC",
   "ZEACZBADJCZCALGBLGZKACZBAGZDADZBAEZDACZBABZBACZDACZDADZDAIHBADZEAFZDADZBAEZCJBZGABZOHBAM",
   "GIZFPBADTBAIZBADZBAXZBAKPBAFZCXBJBAHZBADZBAEZHACZBJCQBZCXBZCACJCZCAKZHUBJIRBPBACTBAIZBAD",
   "ZBAXZBAKZBAFZCGCAHZBADZBAEZHACZGXBABZBACICZCAKZBICYBZMSBPBACWBAIZBADZBAXLBAQLBSCJBAGJBZB",
   "ADZBAELBRBZERDABRHQBACJCZCAKJGRDJHZBWBDCZBDSZDDYZBDJZBDBZCDHZDDBZEDGZBDBZBDIZGPKZCDDZMA1",
   "+ZEA.Z1FACZBABZBUBACUBABZBUBABUGAEUBAHUBADZBABZBABUCACUBANUBADZCAFZBABZBAGYBZBAKZCACMCZ1",
   "AB2IZBB1BDBJCZEB*LEBGDBBBZBBVDDBHDBBBDDZBDPZBJBDBHCJDKELCZ1FD1CJBDFJBDCJBDHJDDEJGD+J2AKE",
   "JCA1GZBMBZFMBZCA1HFCHCABHBMDA2+KFA2EKFA2SKGDHHBD1;HBDBZBDEZCDHZBDBZBDEZCD1HHBDBZBDEZCD;H",
   "BDBZBDEZCDHZBDBZBDEZCDHHBDHZBDXHBD;HBDBZBDEZCDHHBD1HHBDTZCLCHCD=ZDH+ZGD2VQBZCQGZCKBDjWKJ",
   "D.ZDD2RPIZHFNXBFHXBZJXBFXZJFUZMFNZBFDZBFCZMD2.GBZCDKZGGKZGDPXBDKZGD2YTBZHD1KJBZFK2GZKG.P",
   "CZBGMZEGMZEGBZDG1KZCGFZLH1KKCZEH+ZGHKKBZDHCG1AH=ZCHCK1;ZBK.ZCKLZGKKZGKOZCPPWCXOZ1RI2MXBZ",
   "DI1NXCZBJ1LMDJMMGL1UZILEJ1YZDJPZDJ1TRJZHT1LZCTDMIZIK1DMESBPCUBZFG3MH2YIHJ=PPSEXBRBLBKBIC",
   "A4*BBJEA2+JGAWZCAGZCA1GZCAGZCAIZBABZBABZBABZBA;ZCA1VZBAPZBAOZCAGZBATZCADZBAJZBA1PDBAXFBD",
   "GFFGCHCFBHHFFJBZBOEAHFBZCA*ZBHFLIZDALBBCBDDFCHEKDLBNBPDQBSBXBZPASDCFHHBIEJBZPA1ZDCGBHBFP",
   "HBICJBKDA1QDBIBJEKBQCZEA2*DJFMA7SFOABDBA3ZDBFBD:F1UGCHLIMKBLLPHRESBA1FDCZZALZVA4LFUGBA4W",
   "FKA2QDIFIAUGCFCHBDBA2WDCFMHCFKGIHLJBKCGCHQIBJKKDJEKKLBKTLBKBLEKYPBAELBAELCA=LBA1DLBABLBA",
   "ELDABKBAHLCAHFOA;LDAYLBAOLBHHIEMBJBMBLCF=JEFQD8AFgAGOHGIHJFIEJ1JPDJFKFP+ZCP1AZBWBP1CTDPM",
   "UBPISBTZQETPUBH1PXBH1PXBINJDKBJDIEJGKCH3LKHMCZFH1NZBMBZFMBZCH1WMCZHHBLBZOLBHXZJHHZBHHZBH",
   "HZBHHZBHHZBHHZBHHZBHHZBJ1AHYJEHCJTKBMKPHRCSFTFUBWDXLZ1CD+ZBD2ZZMD6WZ+DMZEA1YDDFDDBABZBA2",
   "UFCZCAGFCA2:FBZFA1IJBSBTBZBA2:ZBAQDYLDWFHQJUZMFQA.GCZBA1EKMGBFPA=GCHBA1SFPAMGEA1PVBA3XGE",
   "A3DGCA;GBD6dWWKG2AAkdGHWJIKIMBQJSVTFWNXDD14NZDDSFCDQFBDMFBDDFBDBZJK1QJ9MZUJ1ALCJSMIJ=PGQ",
   "BMBK2YZIHXIEJFICJ3LLCQBLCMCPMLKMBPDRBTBPCQGTCUGXCUFWEZFXCZBXBZBXFZYXDWCPBMCLBJFH1MWBZDKK",
   "ZGI1YZIJ2FRBZIJMZGK=QCTCJ2UZLJBK.ZDK2OZBKLZEKCP;ZBJ1XZJJOZCJKZCJEK=PEK2DZYKFMXZKLGZCLGZC",
   "LGZJLHZBLHZBP1QQEPCUCWEZEQ2QK1OZCKKZGBatEZMKXZEK1RZEB20AA6hOMCF1*KDZCH3KZ1GAHZMAFZFDBAZZ",
   "BAFZBABZBACZBACZBA3MLQXBZQAbNXQA2AZCA1WZHXBE1AAMFBGBXCFQHKZGAEJDPHQCAVFCGCAKZBATZBAEZEAD",
   "FBABZBA4HZCABZBA2:FCA2:ZDAGZCAGZCAGZCADZDAHZBAHZKDDCBADGMZBG+ZBGTZBGCZBGPZCGOZ1CG3*ZFGDZ",
   "EG1NZDGJH2LPCRCZBJMWBZDPBZ1PJ1OZ4CJ.ZDJ1RZPP=ZEE;PBEEZJSDE*ZFP1LZFG:ZBGBH1EZEHOZ1KE1GGCE",
   "1GG2QZCGKZGR1EZER1EZEP1IZIP1UZLPBXLZBXPZBXHZBXCZBXLZBXPZBXHZBXCZ2DP9XZJPWZKPIZYXGZBX1KZB",
   "XJZ2FGGZCGBZBG1MZBGCZDGBZCGBKWZBKJP1;ZIPJZ1QQTZBQCZFQFI+KCZDIBJ+ZFJBZ2AM1YZEQCMCQQZCQ1OH",
   "EZBHCZFHIZBHDZBH*TCZCHDZEHJTBZHHJZHK1AP1AZ1AP1HZEPMZJK1WZDK.ZCK*ZFKIPSZHPEZMPHZ2QK2JZ1XQ",
   "1TZNQ1TZHQGT1IZITKZ9GK;ZBW1KZBWDZCWCZ2LYDT1IZIT1KZWX+Z1GW=ZUUXZJL2OZEL:XGZJPBK2CXBZKTBZC",
   "MZZHMKZGM1VZBMOTDWBZIP1HZJM2JQEPBWCMKPBQFZBPUZLPSZBP1LRBYDZ1:QHZBQBZBQEZBQPZBQLZGP1*ZFPK",
   "ZGQBPDZBPIZCPCZCPWZBPHZBPCZBPFZBTBPJZCPCZCPDZCQBZGPBZFPHZCPHZDPFZ4LR2+WBRBZBRBTBUBWCZ:P2",
   "IZIPKZ5GP1WZCPSQUZ1CP2FZLPKZGRNZTM1YUBXBZGMKZ1WQ+TBZCQPZEQQXHZ5ZT1=Z3EP2TZMPBWHZCWBZCWIZ",
   "BWCZBW:ZBWCZCWMZJWKZ2GUIZCU1OZCULZ*S2IZIS1UUCSXTBSFZNXQP1ZZHYKZ7WRJZBR1NZBROZKR.ZDR1AZCR",
   "WZBROZ2JSHZBSCZBS1MZDSBZBSCZBSJZISKZGTGZBTCZBT1FZBTCZBTGZHTKZ9WTZZHYRZBY1JZDY=Z2WWBZPU1S",
   "ZNUBIrPP1KQBZ3GI3DPMZBIEPBZLQ6EZ2iMX3DZNK11PYBUJY.Z3tKQiHZ8dZLhZZHP;ZBPKZEPCX2PZBXKZGP:Z",
   "CPGZKP2GZKPKZBPHZBPVZFPTZlQT2*Z3FM2FUGZEUBM1PUJZHMRZ2ARBSBUCWBZLWCZOR5vNTFUGZIRnTWfDZ1KW",
   "JZ8nHXEZBXHZBXCZBLCS8.XEZPYBZ.UDZCYBZOUEZIScMZ28EP3LZFPNZDPJZHPKZCPIZ4i=X1OZCXXZJX3UZ1=E",
   "7WZKE1HZCJBE5UQLXCZVH2GZ3+YUZMTUZMG2XZJISTHZ4HE2VZBE2HZBECZCEBZCECZCEEZBEMZBEBZBEEGBECZB",
   "E2BZBEEZCEIZBEHZBE=ZBEEZBEFZBEBZDEHZBEaSHCZCE9CICZCE1SQkMZPQFZBQPZ12QX;ZGYGZ6VRHZBRRZCRH",
   "ZBRCZBRFZFY1:Z1BYBZ3QU1NZDUOZCUKZEUCZaAX;ZRU1+ZFUBZeQY1KZnGXHZBXEZBXCZBXPZBP6FZCPQZ1JR2L",
   "UBZERKZERCZoRT2EZ2MU1.Z6CMEZBM*ZBMCZBMBZCMBZBMKZBMEZBMBZBMBZGMBZEMBZBMBZBMBZBMDZBMCZBMBZ",
   "CMBZBMBZBMBZBMBZBMBZBMCZBMBZCMEZBMHZBMEZBMEZBMBZBMKZBMRZFMDZBMFZBMRZ1UMCZ8OJ1MZEJ3EZMLPZ",
   "CLOPBZBLPZBLPPWZKKLPCWDK;TBLBKBLLKBLBKBLCKBLDKBLDKFLIKBLHKBLKMCUBWDLJKBLBKCLCKBLKKELCKBL",
   "KRSWBZ1YL+KBLCZNK1CLJRBZEKJZHLCZOSGZ4+L1BPMQDLGPBL2GPBQCLUPML1FPBLFPEQFPMLRPHQIL1;PBLBPB",
   "L5WPBLEPCQBL1:PCMEPHQFLYPSRBP1JRBP2WLFMBLQMBLDMBLBMBLBMBLBMBLDMBLGMCLEMBLBMCLEMBLMPCQCLL",
   "P1QL2GPKQBRCSCUBWCZEYBXDPNZDPERDSCTBUBWCZDL3UYDZEYFP2VTEYBZGUMZEXBZPPMZEP1YZIPKZGP1IZIP:",
   "ZCWCZ2OSMWBUDQJRGSBRISIRBSCRMUBRMSBTDRPSNTFUBWBTEWCXBTBUBTEQFRNSGTLWCUGWDUCTKUGQBTCUIWBX",
   "BUDSXTZU2UZMTOZCUEWBYDUDXCZDUDWEYCZHUGWTXEYDWHXEYDZBYBWDXDZIYCWHXDYCZEXIYBZHXHYCZHW4TZBW",
   "1XZ1FWKZ10EBCE19mXWHXCZ1AK41VXEYBZGL6:ZCQ5kCZOS79RZ30;Eg:Z1fABCW4qLZFY43AZ1n2OBCZ1vv:BCZ",
   "1vv:BCZ1vv:BCZ1vv:BCZ1vv:BCZ1vv:BCZ1vv:BCZ1vv:BCZ1vv:BCZ1vv:BCZBEBZ:E3AZ4AG7QZ1vgOB"]

end Patternwork.Unicode
