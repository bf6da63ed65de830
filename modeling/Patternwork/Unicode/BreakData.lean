namespace Patternwork.Unicode

/-- The roles of code points at the boundaries of graphemes. -/
def graphemeBreakNames : List String :=
  ["cr",
   "cn control",
   "extpictxx",
   "ex extend",
   "l",
   "lf",
   "lv",
   "lvt",
   "xx other",
   "pp prepend",
   "ri regionalindicator",
   "sm spacingmark",
   "t",
   "v",
   "zwj"]

def graphemeBreakRuns : List String :=
  ["ABKFBBCABBSI2;B1BIJCBIDBBCBIiRD3QI8TDHI8HD1NIBDBIBDCIBDCIBDBI1YJGIKDLIBBBI1ODVIQDBI3FDHJ",
   "BIBDGICDCIBDEI1BJBIBDBI:D*I2*DLI1+DJIJDBIYDEIBDJIBDDIBDFI1LDDI1UJCIGDII1KDYJBD1ALBI1WDBL",
   "BDBIBLDDILEDBLCIBDHIKDCI.DBLCI1YDBIBDBLCDEICLCICLCDBIJDBIKDCI+DBICDCLBI1YDBIBLDDCIEDCICD",
   "DIDDBI:DCIDDBILDCLBI1YDBIBLDDFIBDCLBIBLCDBIUDCIWDGIBDBLCI1YDBIBDCLBDEICLCICLCDBIHDDIKDCI",
   ":DBI1*DBLBDBLCIDLDIBLDDBIJDBI1IDBLDDBI1XDBIBDDLEIBDDIBDEIHDCILDCI.DBLCI1YDBIBLBDBLCDBLCI",
   "BDBLCIBLCDCIHDCILDCIPLBIMDCLCI1XDCIBDBLCDEIBLDIBLDDBJBIIDBIKDCI.DBLCI2GDBIEDBLCDDIBDBIBL",
   "HDBISLCI1.DBIBLBDHIMDII3CDBIBLBDJILDHI2JDCI*DBIBDBIBDBIELCI1RDOLBDFIBDCIFDLIBD1EIJDBI3GD",
   "ELBDGIBDCLCDCIXLCDCIEDDIQDEINDBIBLBDCIGDBIPDBI3CE3AN2IM2YIa.DDItSDDLBI=DCLBI.DCI:DCI2ADC",
   "LBDHLIDBLCDLIJDBI1NDDBBDBI3VDCI1CDBI3WDDLEDCLDIELCDBLGDDI6*DCLCDBI1ZLBDBLBDHIBDBIBDBICDI",
   "LGDKICDBI1QD;I1RDELBI1PDHLBDBLFDBLCI1GDJIMDCLBI:LBDELCDCLBDDI1YDBLBDCLDDBLBDDLCI1QLIDILC",
   "DCI4YDDIBDNLBDHIEDBIGDBICLBDCI6GD2AIgLBBDBOBBCIYBHINCBIMCBIWBQI3AD1BI1RCBIWCBI2+CGIPCCIb",
   "PCCIMCBI2;CBI2GCBIZCLIECDI6HCBI7HCCIKCBIJCBI1+CEIBCGIBCMIBC3SIKC3WICCLIBCBIBCBIGCBIDCBIG",
   "CBIKCCIPCBICCBIECBIBCBIECDIBCBILCFI1NCDIJCBIOCBIOCBIbUCCIePCDITCCI1TCBIECBIcZDDI4NDBI3AD",
   "1AIhKDGCBIMCBI2*DCIf=CBIBCBIsuVDEIBDKI1ADCI2QDCI8QDBIDDBIEDBIXLCDCLBIEDBI2TLCI1SLQDCI+DS",
   "INDBI1GDIIZDLLCIME.IDDDLBI1PDBLCDELCDCLDI1EDBI2DDGLCDCLCDCIMDBIIDBLBI1ODBI1TDBIBDDICDCIF",
   "DCIBDBI1JLBDCLCIFLBDBI7MLCDBLCDBLCIBLBDBISGBH*GBH*GBH*GBH*GBH*GBH*GBH*GBH*GBH*GBH*GBH*GB",
   "H*GBH*GBH*GBH*GBH*GBH*GBH*GBH*GBH*GBH*GBH*GBH*GBH*GBH*GBH*GBH*GBH*GBH*GBH*GBH*GBH*GBH*GB",
   "H*GBH*GBH*GBH*GBH*GBH*GBH*GBH*GBH*GBH*GBH*GBH*GBH*GBH*GBH*GBH*GBH*GBH*GBH*GBH*GBH*GBH*GB",
   "H*GBH*GBH*GBH*GBH*GBH*GBH*GBH*GBH*GBH*GBH*GBH*GBH*GBH*GBH*GBH*GBH*GBH*GBH*GBH*GBH*GBH*GB",
   "H*GBH*GBH*GBH*GBH*GBH*GBH*GBH*GBH*GBH*GBH*GBH*GBH*GBH*GBH*GBH*GBH*GBH*GBH*GBH*GBH*GBH*GB",
   "H*GBH*GBH*GBH*GBH*GBH*GBH*GBH*GBH*GBH*GBH*GBH*GBH*GBH*GBH*GBH*GBH*GBH*GBH*GBH*GBH*GBH*GB",
   "H*GBH*GBH*GBH*GBH*GBH*GBH*GBH*GBH*GBH*GBH*GBH*GBH*GBH*GBH*GBH*GBH*GBH*GBH*GBH*GBH*GBH*GB",
   "H*GBH*GBH*GBH*GBH*GBH*GBH*GBH*GBH*GBH*GBH*GBH*GBH*GBH*GBH*GBH*GBH*GBH*GBH*GBH*GBH*GBH*GB",
   "H*GBH*GBH*GBH*GBH*GBH*GBH*GBH*GBH*GBH*GBH*GBH*GBH*GBH*GBH*GBH*GBH*GBH*GBH*GBH*GBH*GBH*GB",
   "H*GBH*GBH*GBH*GBH*GBH*GBH*GBH*GBH*GBH*GBH*GBH*GBH*GBH*GBH*GBH*GBH*GBH*GBH*GBH*GBH*GBH*GB",
   "H*GBH*GBH*GBH*GBH*GBH*GBH*GBH*GBH*GBH*GBH*GBH*GBH*GBH*GBH*GBH*GBH*GBH*GBH*GBH*GBH*GBH*GB",
   "H*GBH*GBH*GBH*GBH*GBH*GBH*GBH*GBH*GBH*GBH*GBH*GBH*GBH*GBH*GBH*GBH*GBH*GBH*GBH*GBH*GBH*GB",
   "H*GBH*GBH*GBH*GBH*GBH*GBH*GBH*GBH*GBH*GBH*GBH*GBH*GBH*GBH*GBH*GBH*GBH*GBH*GBH*GBH*GBH*GB",
   "H*GBH*GBH*GBH*GBH*GBH*GBH*GBH*GBH*GBH*GBH*GBH*GBH*GBH*GBH*GBH*GBH*GBH*GBH*GBH*GBH*GBH*GB",
   "H*GBH*GBH*GBH*GBH*GBH*GBH*GBH*GBH*GBH*GBH*GBH*GBH*GBH*GBH*GBH*GBH*GBH*GBH*GBH*GBH*GBH*GB",
   "H*GBH*GBH*GBH*GBH*GBH*GBH*GBH*GBH*GBH*GBH*GBH*GBH*GBH*GBH*GBH*GBH*GBH*GBH*GBH*GBH*GBH*GB",
   "H*GBH*GBH*GBH*GBH*GBH*GBH*GBH*GBH*GBH*GBH*GBH*GBH*GBH*GBH*GBH*GBH*GBH*GBH*GBH*GBH*GBH*GB",
   "H*GBH*GBH*GBH*GBH*GBH*GBH*GBH*GBH*GBH*GBH*GBH*GBH*GBH*GBH*GBH*GBH*GBH*GBH*GBH*GBH*GBH*GB",
   "H*GBH*GBH*GBH*GBH*GBH*GBH*GBH*GBH*GBH*GBH*GBH*GBH*GBH*IMNXIEM1RI8pCDBInBDQIQDQI6PBBI4:DC",
   "I2QBMIgBDBI7CDBI4VDFI1kGDDIBDCIFDEI1IDDIEDBI5FDCIh.DEIcDDCI2QDDI2GDLI1RDEI3+LBDBLBI1VDPI",
   "1JDBICDCIKDDLBI1NLDDELCDCICJBIEDBIKJBI1SDDI1EDFLBDIIQLCI1MDBIMDCLBI1QLDDJLCIBJCIFDEIBLBD",
   "BI2=LDDDLCDBLBDCIGDBICDBI4.DBLDDIIVDCLCI1XDCIBDBLBDBLEICLCICLDIJDBIKLCICDHIDDFI6ALDDILCD",
   "DLBDBIXDBI2RDBLCDGLBDBLCDBLBDCLBDCI7LDBLCDEICLEDCLBDCI*DCI2SLDDILCDBLBDCI3KDBLBDBLCDGLBD",
   "BI3FDDICDELBDFI8ALDDJLBDCI7VDBLFIBLCICDCLBDBJBLBJBLBDBI4NLDDEICDCLEDBIDLBI=DKI1IDGLBJBDE",
   "IIDBIJDGLCDDI1IJGDNLBDCIcVLBDHIBDGLBDBI2SDWIBLBDHLBDCLBDCI3+DGIDDBIBDCIBDHJBDBI2CLFIBDCI",
   "BLCDBLBDBIa*DCLCIJDCJBLBI1QLCDFIDLCDBLBDBI57NBQDBIGDPIdk+DFI1*DHI10YDBIBL1XIHDEI2RDBILLC",
   "Ij5LDCIBBEI4i=D1OICDXIg:DBLBDDIDLBDFBIDIICDHI:DEI4UDDI1t*D1XIED1SIIDBIODBIWDFIBDPI1aQDHI",
   "BDRICDHIBDCIBDFI3EDBI5ADHIbXDBI1.DEIf=DEIvADHI3NDHI1lVC8AINCDI;CBI1=CGIMCCIOCBICCKISC1ZK",
   "+IBCPIKCBIUCBICCJIBCEIJCdSDFC9:IIC8KI1QC4AI3UCMI2VC1LIMCEI1YCIIKCGI1ICII:C2SIMC1PIBCKIBC",
   "dZI8ACv:Io00CB1AD3AB4AD7QB3gQI"]

def wordBreakNames : List String :=
  ["le aletter",
   "cr",
   "dq doublequote",
   "extpictle",
   "extpictxx",
   "extend",
   "ex extendnumlet",
   "fo format",
   "hl hebrewletter",
   "ka katakana",
   "lf",
   "ml midletter",
   "mn midnum",
   "mb midnumlet",
   "nl newline",
   "nu numeric",
   "xx other",
   "perltailoredhspace",
   "ri regionalindicator",
   "sq singlequote",
   "zwj"]

def wordBreakRuns : List String :=
  ["AQJRBKBOCBBQSRBQBCBQETBQEMBQBNBQBPKLBMBQFA+QEGBQBA+QKOBQ+RBQIEBABQCHBEBQGABQBLBQCABQFAXQ",
   "BA;QBAfAQGA1CF3QAFQBACQCAEMBABQGABLBADQBABQBAUQBA2TQBA4LQBFHA5GQBA1GQCAEQBABLBA1JMBABQGF",
   "1NQBFBQBFCQBFCQBFBQII*QEIEABLBQLHGQGMCQCFLQBHBQDA1LFVPKQBPBMBQBACFBA3DQBABFHHBQBFGACFCQB",
   "FEACPKADQCABQPHBABFBA:F*QCA2ZFLABQOPKA1BFJACQCMBQBABQCFBQCAWFEABFJABFDABFFQSAZFDQEALQFAY",
   "QBAGQBHCQGFIA1KFYHBF1BA1WFDABFSABFHAKFCQCPKQBAQFDQBAIQCACQCAWQBAHQBABQDAEQCFBABFHQCFCQCF",
   "DABQIFBQEACQBADFCQCPKACQKABQBFBQCFDQBAGQEACQCAWQBAHQBACQBACQBACQCFBQBFFQEFCQCFDQDFBQHAEQ",
   "BABQHPKFCADFBQLFDQBAJQBADQBAWQBAHQBACQBAFQCFBABFIQBFDQBFDQCABQPACFCQCPKQJABFGQBFDQBAIQCA",
   "CQCAWQBAHQBACQBAFQCFBABFHQCFCQCFDQHFDQEACQBADFCQCPKQBABQQFBABQBAGQDADQBAEQDACQBABQBACQDA",
   "CQDADQDAMQEFFQDFDQBFEQCABQGFBQOPKQQFFAIQBADQBAXQBAQQCFBABFHQBFDQBFEQHFCQBADQCABQCACFCQCP",
   "KQQABFDQBAIQBADQBAXQBAKQBAFQCFBABFHQBFDQBFEQHFCQGACQBACFCQCPKQBACFBQMFEAJQBADQBA1JFCABFH",
   "QBFDQBFEABQFADFBQHADFCQCPKQKAGQBFDQBASQDAYQBAJQBABQCAHQDFBQEFGQBFBQBFIQGPKQCFCQ1.FBQCFHQ",
   "MFIQBPKQ2XFBQCFJQLFHQBPKQ1GABQXFCQGPKQLFBQBFBQBFBQEFCAIQBA1EQEFUQBFCAFFLQBF1EQJFBQ3EFUQB",
   "PKQMFEQEFDQBFDQCFHQDFEQNFMQBFBPKFEQCA1GQBABQFABQCA1LQBAaNQBAEQCAHQBABQBAEQCA1JQBAEQCA1BQ",
   "BAEQCAHQBABQBAEQCAPQBA1ZQBAEQCA2DQCFDQ1AAQQQA2WQCAGQDAjMQCARRBA+QFA2LQDALQHASFEQJATFDQLA",
   "SFCQMANQBADQBFCQ2AF1AQJFBQCPKQ1BFDHBFBPKQGA2ZQHAFFCA1CFBABQFA2GQKA;QBFMQEFMQKPKQ4APKQ1GA",
   "XFFQ1ZFKQBF.QCFBPKQGPKQWF;Q1RFFA1PFRAIQDPKQRFJQMFDA:FNACPKA1MFOQMA1EFUQIPKQDADPKA1EQCAJQ",
   "HA1LQCADQQFDQBFVAEFBAGFBACFDABQFA6AF2AA8WQCAGQCA1GQCAGQCAIQBABQBABQBABQBA;QCA1VQBAHQBABQ",
   "DADQBAHQDAEQCAGQEANQFADQBAHQDRLQBFBUBHCQINCQKNBQCLBOCHFGBQMEBQCGCQDMBQEEBQKGBQKRBHFQBHKQ",
   "BABQNABQQANQ1TF1BQRABQEABQCAKQBABQDAFQEEBQBABQBABQBABQBAEQBAKDBQCAEQFAFQEABQRA1JQLEGQPEC",
   "QbPECQMEBQ2;EBQ2GEBQZELQEEDQ5*AMDBA1HQ6AECQKEBQJEBQ1+EEQBEGQBEMQBE3SQKE3WQCELQBEBQBEBQGE",
   "BQDEBQGEBQKECQPEBQCEBQEEBQBEBQEEDQBEBQLEFQ1NEDQJEBQOEBQOEBQbUECQePEDQTECQ1TEBQEEBQ5KA7FQ",
   "GAEFDACQMA1GQBABQFABQCA1YQHABQPFBAXQJAHQBAHQBAHQBAHQBAHQBAHQBAHQBAHQBF1AQ1PABQeQRBQEABQ1",
   "EFGEBJFQFACEBQ2*FCJCQDJ2*QBJEQFA1LQBA2:QRA1AQ1QJQQ4XEBQBEBQ1WJ1PQBJ2YQr5IA14NQ2DA1OQCA8N",
   "QDAQPKACQUA1PFEQBFKQBA;FCA2QFCQWA6DQFACQBABQBAFQYAQFBADFBAEFBAXFFQEFBQTA1UQMFCA1SFSQKPKQ",
   "GFSAGQDABQBACFBPKA=FIQCAXFNQMA.QDFEA1PFOQOABPKQLFBQKPKQGA1JFOQJADFBAIFCQCPKQ1BFDQ1SFBQBF",
   "DQCFCQFFCQBFBQ:ALFFQCADFCQKAGQCAGQCAGQJAHQBAHQBA1+QGA3TFIQBFCQCPKQGAatEQMAXQEA1RQ8oEAHQM",
   "AFQFIBFBIKQBINQBIFQBIBQBICQBICQBIKA3CQ1BAbLQSA2AQCA1WQ1IAMQEFQMBQCLBMBQLFQQDGCQYGDMBQBNB",
   "QBMBLBQ+AFQBA4HQCHBQHNBQEMBQBNBQBPKLBMBQFA+QEGBQBA+QLJ1YFCA;QDAGQCAGQCAGQCADQ=HDQEAMQBA+",
   "QBATQBACQBAPQCAOQ1CA3*Q2FA1VQ4IFBQ4CA.QDA1RQPFBQ;A1AQNA:QFA1GFFQFA:QCA1EQEAIQBAFQ1KA4:QC",
   "PKQGA1EQEA1EQEA1IQIA1UQMALQBAPQBAHQBACQBALQBAPQBAHQBACQ2DA9XQJAWQKAIQYAGQBA1KQBAJQ2FAGQC",
   "ABQBA1MQBACQDABQCAXQKAXQJA;Q2BATQBACQKAWQKA+Q2GA1YQGACQ2AABFDQBFCQFFEAEQBADQBA.QCFDQEFBQ",
   "1AA.QDA.Q1DAIQBA=FCQZA1WQKAWQKATQNASQ3OA2JQ1XA1TQNA1TQNA1EFEQIPKQaGA1KQBFCQDACQ2LFDA.QKA",
   "BQIAWFLQ;ASFEQ1KAVQ*AXQJFDA1VFPQ;PKFBACFCABQJFEA1NFLQCHBQEFBQKHBQCAZQHPKQGFDA1EFOQBPKQEA",
   "BFCABQIA1DFBQCABQJFDA1QFOAEQEFEQBFCPKABQBABQ1DASQBAZFMQGFBACFBQ1:AHQBABQBAEQBAPQBAKQHA1P",
   "FMQFPKQGFEQBAIQCACQCAWQBAHQBACQBAFQBFCABFHQCFCQCFDQCABQGFBQFAFFCQCFHQDFFQ4LA1VFSAEQFPKQE",
   "FBADQ:A1QFUACQBABQIPKQ5GA1PFHQCFJQXAEFCQ1CA1QFRQDABQLPKQ1GA1LFNABQHPKQ2TFPQEPKQ6GA1MFPQ3",
   "FA2APKQVAIQCABQCAIQBACQBAYFGQBFCQCFEABFBABFCQMPKQ2GAIQCA1HFHQCFHABQBABFBQ*ABFKA1IFHABFEQ",
   "IFBQIABFLA1OFQQDABQSA2JQ8HAJQBA1FFIQBFIABQPPKQYA:QCFWQBFOQ2JAHQBACQBA1GFGQDFBQBFCQBFHABF",
   "BQIPKQGAGQBACQBA1AFFQBFCQBFFABQHPKQ9WATFEQJFCABFBANQBA1CFHQDFFQNPKQ2WABQ2PAs+Q3GA3PQRA6E",
   "Q2iMA3BQPA11QHQFBAGFPQ3tKAiHQ8dZAhZQHA;QBPKQGA2PQBPKQGA:QCFFQLA1QFHQJAEQMPKQJAVQFATQlQA2",
   "AQ4AA2LQEFBABF1XQHFEANQ2AACQBABFBQLFCQfv:JEQBJHQBJCQBJBQ8;JDQ1SJBQOJEQ2kYA3LQFANQDAJQHAK",
   "QDFCQBHEQ4i=F1OQCFXQg:FFQDFGHIFIQCFHQ:FEQ4UFDQd*A2VQBA2HQBACQCABQCACQCAEQBAMQBABQBAHQBA2",
   "BQBAEQCAIQBAHQBA=QBAEQBAFQBABQDAHQBAaUQCAZQBAZQBA;QBAZQBA;QBAZQBA;QBAZQBA;QBAZQBAIQCP1SQ",
   "gAF1XQEF1SQIFBQOFBQWFFQBFPQ12QA;QGAGQ6VFHQBFRQCFHQBFCQBFFQFA1:Q1BFBQ3QA1NQDFHAHQCPKQEABQ",
   "aBA:FBQRA1MFEPKQeWA=FEPKQnGAHQBAEQBACQBAPQBA6FQLFHQ1JA2EFHABQEPKQ15GAEQBA*QBACQBABQCABQB",
   "AKQBAEQBABQBABQGABQEABQBABQBABQBADQBACQBABQCABQBABQBABQBABQBABQBACQBABQCAEQBAHQBAEQBAEQB",
   "ABQBAKQBARQFADQBAFQBARQaEE8AQNEDQ;EBA+QGA+QCEEDCAMDCAKQEEBQCEKQSE1ZS+QBEPQKEBQUEBQCEJQBE",
   "EQJEdSFFE9:QIE8KQ1QE4AQ3UEMQ2VE1LQMEEQ1YEIQKEGQ1IEIQ:E2SQME1PQBEKQBEdZQ7QPKQGEv:Qo00DHBQ",
   ":F3AQ4AF7QQ"]

def sentenceBreakNames : List String :=
  ["at aterm",
   "cr",
   "cl close",
   "ex extend",
   "fo format",
   "lf",
   "lo lower",
   "nu numeric",
   "le oletter",
   "xx other",
   "sc scontinue",
   "st sterm",
   "se sep",
   "sp",
   "up upper"]

def sentenceBreakRuns : List String :=
  ["AJJNBFBNCBBJSNBLBCBJECDJCKCABJBHKKBJELBJBO+CBJBCBJDG+CBJBCBJHMBJ+NBJJGBCBJBEBJHGBJEGBCBJ",
   "EOXJBOHGYJBGIOBGBOBGBOBGBOBGBOBGBOBGBOBGBOBGBOBGBOBGBOBGBOBGBOBGBOBGBOBGBOBGBOBGBOBGBOBG",
   "BOBGBOBGBOBGBOBGBOBGBOBGBOBGBOBGBOBGCOBGBOBGBOBGBOBGBOBGBOBGBOBGBOBGCOBGBOBGBOBGBOBGBOBG",
   "BOBGBOBGBOBGBOBGBOBGBOBGBOBGBOBGBOBGBOBGBOBGBOBGBOBGBOBGBOBGBOBGBOBGBOBGBOCGBOBGBOBGDOCG",
   "BOBGBOCGBODGCOEGBOCGBODGDOCGBOCGBOBGBOBGBOCGBOBGCOBGBOCGBODGBOBGBOCGCIBOBGDIEOCGBOCGBOCG",
   "BOBGBOBGBOBGBOBGBOBGBOBGBOBGBOBGCOBGBOBGBOBGBOBGBOBGBOBGBOBGBOBGBOBGCOCGBOBGBODGBOBGBOBG",
   "BOBGBOBGBOBGBOBGBOBGBOBGBOBGBOBGBOBGBOBGBOBGBOBGBOBGBOBGBOBGBOBGBOBGBOBGBOBGBOBGBOBGBOBG",
   "BOBGBOBGBOBGBOBGBOBGHOCGBOCGCOBGBOEGBOBGBOBGBOBGBOBG2FIBG1EIHGCJEIMJOGFJHIBJBIBJRD3QOBGB",
   "OBGBIBJBOBGBJCGEJBOBJGOBJBODJBOBJBOCGBORJBOJG1DOBGCODGDOBGBOBGBOBGBOBGBOBGBOBGBOBGBOBGBO",
   "BGBOBGBOBGBOBGFOBGBJBOBGBOCGCO1TG1QOBGBOBGBOBGBOBGBOBGBOBGBOBGBOBGBOBGBOBGBOBGBOBGBOBGBO",
   "BGBOBGBOBGBOBGBJBDHOBGBOBGBOBGBOBGBOBGBOBGBOBGBOBGBOBGBOBGBOBGBOBGBOBGBOBGBOBGBOBGBOBGBO",
   "BGBOBGBOBGBOBGBOBGBOBGBOBGBOBGBOBGBOBGBOCGBOBGBOBGBOBGBOBGBOBGBOBGCOBGBOBGBOBGBOBGBOBGBO",
   "BGBOBGBOBGBOBGBOBGBOBGBOBGBOBGBOBGBOBGBOBGBOBGBOBGBOBGBOBGBOBGBOBGBOBGBOBGBOBGBOBGBOBGBO",
   "BGBOBGBOBGBOBGBOBGBOBGBOBGBOBGBOBGBOBGBOBGBOBGBOBGBOBGBOBGBOBGBOBGBOBGBOBGBOBGBOBGBJBO1G",
   "JCIBJDKBJCG1JLBJHD1NJBDBJBDCJBDCJBDBJII*JEIFJMEGJGKCJCDLJBEBLDI1LDVHKJBHCJBICDBI3DLBIBDH",
   "EBJBDGICDCJBDEICHKIDJCIBLDJMEBIBDBI:D*JCI2ZDLIBJOHKI1BDJICJCKBLBIBJCDBJCIWDEIBDJIBDDIBDF",
   "JJLBJBLBJDLCJBIZDDJEILJFIYJBIGJBECJGDII1KDYEBD1BI1WDDIBDSIBDHIKDCLCHKJBIQDDJBIIJCICJCIWJ",
   "BIHJBIBJDIEJCDBIBDHJCDCJCDDIBJIDBJEICJBIDDCJCHKICJKIBJBDBJCDDJBIGJEICJCIWJBIHJBICJBICJBI",
   "CJCDBJBDFJEDCJCDDJDDBJHIEJBIBJHHKDCIDDBJLDDJBIJJBIDJBIWJBIHJBICJBIFJCDBIBDIJBDDJBDDJCIBJ",
   "PICDCJCHKJJIBDGJBDDJBIIJCICJCIWJBIHJBICJBIFJCDBIBDHJCDCJCDDJHDDJEICJBIDDCJCHKJBIBJQDBIBJ",
   "BIGJDIDJBIEJDICJBIBJBICJDICJDIDJDIMJEDFJDDDJBDEJCIBJGDBJOHKJQDFIIJBIDJBIXJBIQJCDBIBDHJBD",
   "DJBDEJHDCJBIDJCIBJCICDCJCHKJQIBDDJBIIJBIDJBIXJBIKJBIFJCDBIBDHJBDDJBDEJHDCJGICJBICDCJCHKJ",
   "BICDBJMDEIJJBIDJBI1JDCIBDHJBDDJBDEIBJFIDDBJHIDDCJCHKJKIGJBDDJBISJDIYJBIJJBIBJCIHJDDBJEDG",
   "JBDBJBDIJGHKJCDCJNI1QDBICDHJFIHDIJBHKJ1HICJBIBJBIFJBIYJBIBJBIKDBICDJIBJCIFJBIBJBDHJBHKJC",
   "IEJ1AIBJXDCJGHKJLDBJBDBJBDBCEDCIIJBI1EJEDUJBDCIFDLJBD1EJJDBJ1ZI1LDUIBHKLCJEIGDEIEDDIBDDI",
   "CDHIDDEINDMIBDBHKDEJCO1GJBOBJFOBJCI1LJBGBIaMJBIEJCIHJBIBJBIEJCI1JJBIEJCI1BJBIEJCIHJBIBJB",
   "IEJCIPJBI1ZJBIEJCI2DJCDDJCLBJELCJXIQJQO2WJCGGJDIjMJBLBIRNBI+CCJDI2LJDILJHISDEJJITDDLCJJI",
   "SDCJMINJBIDJBDCJMI1UD1AJDIBJEIBDBJCHKJYKBLBJEKBLBJBDDEBDBHKJGI2ZJHIFDCI1CDBIBJFI2GJKI;JB",
   "DMJEDMJILCHKI:JCIFJLI1MJEI+JGHKJ1GIXDFJEI1VDKJBD.JCDBHKJGHKJNIBLEJED;J1RDFI1PDRIIJDHKLCJ",
   "CLCJLDJJJLCJBDDI:DNICHKI1MDOJMI1EDUJDLCJDHKJDIDHKI1ELCGJJHI1LJCIDJQDDJBDVIEDBIGDBICDDIBJ",
   "FG6AD2AOBGBOBGBOBGBOBGBOBGBOBGBOBGBOBGBOBGBOBGBOBGBOBGBOBGBOBGBOBGBOBGBOBGBOBGBOBGBOBGBO",
   "BGBOBGBOBGBOBGBOBGBOBGBOBGBOBGBOBGBOBGBOBGBOBGBOBGBOBGBOBGBOBGBOBGBOBGBOBGBOBGBOBGBOBGBO",
   "BGBOBGBOBGBOBGBOBGBOBGBOBGBOBGBOBGBOBGBOBGBOBGBOBGBOBGBOBGBOBGBOBGBOBGBOBGBOBGBOBGBOBGBO",
   "BGBOBGBOBGBOBGBOBGBOBGBOBGBOBGBOBGBOBGBOBGJOBGBOBGBOBGBOBGBOBGBOBGBOBGBOBGBOBGBOBGBOBGBO",
   "BGBOBGBOBGBOBGBOBGBOBGBOBGBOBGBOBGBOBGBOBGBOBGBOBGBOBGBOBGBOBGBOBGBOBGBOBGBOBGBOBGBOBGBO",
   "BGBOBGBOBGBOBGBOBGBOBGBOBGBOBGBOBGBOBGBOBGBOBGBOBGBOBGBOBGBOBGJOIGGJCOGJCGIOIGIOIGGJCOGJ",
   "CGIJBOBJBOBJBOBJBOBGIOIGOJCGIOIGIOIGIOIGFJBGCOFJBGBJDGDJBGCOFJDGEJCGCOEJEGIOFJFGDJBGCOFJ",
   "DNLEBDCECJDKCJDCIJEABJDMCEFNBJJCCJBLCJHCCLDJVNBEFJBEKJBGBJLCCGBJNCCJBGNJ1TD1BJROBJEOBJCG",
   "BODGCODGBJBOBJDOFJGOBJBOBJBOBJBOEJBGBOEGBIEGBJCGCOCJFOBGEJEGBJROQGQIDOBGBIEJb;CEJ.CCJcLO",
   "+G+JjRCGJHCOJ2PCCJ;CKJcTCWJ1;CEJ1ACCJgCO1QG1QOBGBODGCOBGBOBGBOBGBOEGBOBGCOBGIODGBOBGBOBG",
   "BOBGBOBGBOBGBOBGBOBGBOBGBOBGBOBGBOBGBOBGBOBGBOBGBOBGBOBGBOBGBOBGBOBGBOBGBOBGBOBGBOBGBOBG",
   "BOBGBOBGBOBGBOBGBOBGBOBGBOBGBOBGBOBGBOBGBOBGBOBGBOBGBOBGBOBGBOBGBOBGBOBGBOBGBOBGBOBGBOBG",
   "BOBGBOBGBOBGCJGOBGBOBGBDDOBGBJMG1GJBGBJFGBJCI1YJHIBJPDBIXJJIHJBIHJBIHJBIHJBIHJBIHJBIHJBI",
   "HJBD1ACOJOCCJCCKJELBIBJMLBJFCBJQLCCIJdDNBKBLBJCIDCKJCCIJBCDJBIJDGJBIFJCIFJEI2WJCDCJCIDJB",
   "I2+JBIEJFI1LJBI2:JRI1AJ1QIQJgAI6eAJ2AIlkNJ2DI1OJBLBI8NJBLCIQHKICJUOBGBOBGBOBGBOBGBOBGBOB",
   "GBOBGBOBGBOBGBOBGBOBGBOBGBOBGBOBGBOBGBOBGBOBGBOBGBOBGBOBGBOBGBOBGBOBGBIBDEJBDKJBIBOBGBOB",
   "GBOBGBOBGBOBGBOBGBOBGBOBGBOBGBOBGBOBGBOBGBOBGBOBGDDCI2QDCJBLBJDLBJ;IJJCOBGBOBGBOBGBOBGBO",
   "BGBOBGBOBGDOBGBOBGBOBGBOBGBOBGBOBGBOBGBOBGBOBGBOBGBOBGBOBGBOBGBOBGBOBGBOBGBOBGBOBGBOBGBO",
   "BGBOBGBOBGBOBGBOBGBOBGBOBGBOBGBOBGBOBGBOBGBOBGKOBGBOBGBOCGBOBGBOBGBOBGBOBGBIBJCOBGBOBGBI",
   "BOBGBOBGDOBGBOBGBOBGBOBGBOBGBOBGBOBGBOBGBOBGBOBGBOFGBOFGBOBGBOBGBOBGBOBGBOBGBOBGBOBGBOEG",
   "BOBGBJFOBGBJBGBJBGBOBGBOBGBJYGDOBGBIBGDIHDBIDDBIEDBIXDFJEDBJTI1UJCLCJIDCI1SDSJILCHKJGDSI",
   "GJDIBJBICDBHKI=DIJBLBIXDNJMI.JDDEI1PDOJHLCJFIBHKJGIFDBIKHKIFJBI1JDOJJIDDBIIDCJCHKJDLDIXJ",
   "DIBDDI1SDBIBDDICDCIFDCIBDBIBJYIDJCILDFLCIDDCJKIGJCIGJCIGJJIHJBIHJBG1LJBGOJGG2QI1DDILBDCJ",
   "CHKJGIatEJMIXJEI1RJ88EIbOJCI3KJ1GGHJMGFJFIBDBIKJBINJBIFJBIBJBICJBICJBI3MJ1BIbLCCJQI2AJCI",
   "1WJ1IIMJEDQKCJBKBJDCCJHDQJBKCJCCQJCCCJHKCABJCKBLCKBCGJEKBJMIFJBI4HJCEBJBLBJGCCJCKCABJBHK",
   "KBJELBJBO+CBJBCBJDG+CBJBCBJBCCLBCCKBJBI1YDCI;JDIGJCIGJCIGJCIDJ=EDJEIMJBI+JBITJBICJBIPJCI",
   "OJ1CI3*J2FI1VJ4IDBJ4CI.JDI1RJPDBJ;I1AJNI:JFI1GDFJFI:JCI1EJEIIJBIFJ1KO1IG1II2OJCHKJGO1EJE",
   "G1EJEI1IJII1UJMOLJBOPJBOHJBOCJBGLJBGPJBGHJBGCJ2DI9XJJIWJKIIJYGBICGDJBG1KJBGJJ2FIGJCIBJBI",
   "1MJBICJDIBJCIXJKIXJJI;J2BITJBICJKIWJKI+J2GI1YJGICJ2AIBDDJBDCJFDEIEJBIDJBI.JCDDJEDBJWLCJI",
   "I.JDI.J1DIIJBI=DCJZI1WJKIWJKITJNISJ3OI2JJ1XO1TJNG1TJNI1EDEJIHKJaGI1KJBDCJDICJ2LDDI.JKIBJ",
   "IIWDLJELFJWISDELEJ1GIVJ*IXJJDDI1VDPLCJ.HKDBICDCIBJJDEI1NDLJCEBLEDBJKEBJCIZJHHKJGDDI1EDOJ",
   "BHKJBLDIBDCIBJII1DDBJCIBJJDDI1QDOIELCJCDELBDCHKIBJBIBJBLCJ1AISJBIZDMLCJBLCJBDBICDBJ1:IHJ",
   "BIBJBIEJBIPJBIKLBJGI1PDMJFHKJGDEJBIIJCICJCIWJBIHJBICJBIFJBDCIBDHJCDCJCDDJCIBJGDBJFIFDCJC",
   "DHJDDFJ4LI1VDSIELCJDHKJEDBIDJ:I1QDUICJBIBJIHKJ5GI1PDHJCDJJBLCJFLPIEDCJ1CI1QDRLCJBIBJLHKJ",
   "1GI1LDNIBJHHKJ1WI*JCDPJEHKJCLDJBIHJ5ZI1MDPJ3FO1AG1AHKJVIIJCIBJCIIJBICJBIYDGJBDCJCDEIBDBI",
   "BDCLBJBLBJJHKJ2GIIJCI1HDHJCDHIBJBIBDBJ*IBDKI1IDHIBDEJDLCJDDBJIIBDLI1ODQJBLCIBJSI2JJ8HIJJ",
   "BI1FDIJBDIIBLCJNHKJYI:JCDWJBDOJ2JIHJBICJBI1GDGJDDBJBDCJBDHIBDBJIHKJGIGJBICJBI1ADFJBDCJBD",
   "FIBJHHKJ9WITDELCJHDCIBDBINJBI1CDHJDDFLCJLHKJ2WIBJ2PIs+J3GI3PJRI6EJ2iMI3BJPI11QEQDBIGDPJ3",
   "tKIiHJ8dZIhZJHI;JBHKJELCI2PJBHKJGI:JCDFLBJKI1QDHLCJHIELBJLHKJJIVJFITJlQO1AG1AJYLBJ3HI2LJ",
   "EDBIBD1XJHDEINJ2AICJBIBDBJLDCJOI5vYJII16WJ1KIJJ8nHIEJBIHJBICJBI9DJPIBJ.IDJCIBJOIEJIIcMJ2",
   "8EI3LJFINJDIJJHIKJDDCLBEEJ4i=D1OJCDXJg:DFJDDGEIDIJCDHJ:DEJ4UDDJd*O+G+O+GHJBGSO+G+OBJBOCJ",
   "COBJCOCJCOEJBOIGEJBGBJBGHJBGLO+G+OCJBOEJCOIJBOHJBG+OCJBOEJBOFJBOBJDOHJBG+O+G+O+G+O+G+O+G",
   "+O+G+O+G=JCOZJBGZJBGGOZJBGZJBGGOZJBGZJBGGOZJBGZJBGGOZJBGZJBGGOBGBJCH1SJgAD1XJED1SJIDBJOD",
   "BJDLBJSDFJBDPJ12QGKIBGUJGGGJ6VDHJBDRJCDHJBDCJBDFJFG1:J1BDBJ3QI1NJDDHIHJCHKJEIBJaBI:DBJRI",
   "1MDEHKJeWI=DEHKJnGIHJBIEJBICJBIPJBI6FJLDHJ1JO1CG1CDHIBJEHKJ15GIEJBI*JBICJBIBJCIBJBIKJBIE",
   "JBIBJBIBJGIBJEIBJBIBJBIBJBIDJBICJBIBJCIBJBIBJBIBJBIBJBIBJBICJBIBJCIEJBIHJBIEJBIEJBIBJBIK",
   "JBIRJFIDJBIFJBIRJjUO+JGO+JGO+J17MCDJ1bXHKJ10GI19nAJ1AI41+JGI6:JCI5kCJOI79RJ30;Ig:J1fCI4q",
   "LJFI43AJln2REBJ:D3AJ4AD7QJ"]

end Patternwork.Unicode
