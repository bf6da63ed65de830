namespace Patternwork.Unicode

/-- The general category of every code point, as runs of equal category: the distance of a run from
    the start of the one before it, and the number of its category. -/
def categoryRuns : List String :=
  ["AZ1AWBRDTBRDNBOBRBSBRBMBRCIKRCSDRCA+NBRBOBUBLBUBB+NBSBOBSBZ1BWBRBTEVBRBUBVBEBPBSB+BVBUBV",
   "BSBKCUBBBRCUBKBEBQBKDRBAXSBAHBYSBBIABBBABBBABBBABBBABBBABBBABBBABBBABBBABBBABBBABBBABBBA",
   "BBBABBBABBBABBBABBBABBBABBBABBBABBBABBBABBBABBBABBBABBBABBCABBBABBBABBBABBBABBBABBBABBBA",
   "BBCABBBABBBABBBABBBABBBABBBABBBABBBABBBABBBABBBABBBABBBABBBABBBABBBABBBABBBABBBABBBABBBA",
   "BBBABBBACBBABBBABBDACBBABBBACBBADBCAEBBACBBADBDACBBACBBABBBABBBACBBABBCABBBACBBADBBABBBA",
   "CBCEBABBDEEABCBBBABCBBBABCBBBABBBABBBABBBABBBABBBABBBABBBABBCABBBABBBABBBABBBABBBABBBABB",
   "BABBBABBCABCBBBABBBADBBABBBABBBABBBABBBABBBABBBABBBABBBABBBABBBABBBABBBABBBABBBABBBABBBA",
   "BBBABBBABBBABBBABBBABBBABBBABBBABBBABBBABBBABBBABBHACBBACBCABBBAEBBABBBABBBABBBABB2FEBB*",
   "DSUEDMUODFUHDBUBDBURF3QABBBABBBDBUBABBB.CDBBDRBAB.EUCABRBAD.BAB.BACBBAR.BAJB1DABBCADBDAB",
   "BBABBBABBBABBBABBBABBBABBBABBBABBBABBBABBBABBFABBBSBABBBACBCA1TB1QABBBABBBABBBABBBABBBAB",
   "BBABBBABBBABBBABBBABBBABBBABBBABBBABBBABBBABBBVBFFHCABBBABBBABBBABBBABBBABBBABBBABBBABBB",
   "ABBBABBBABBBABBBABBBABBBABBBABBBABBBABBBABBBABBBABBBABBBABBBABBBABBBABBBACBBABBBABBBABBB",
   "ABBBABBBABBCABBBABBBABBBABBBABBBABBBABBBABBBABBBABBBABBBABBBABBBABBBABBBABBBABBBABBBABBB",
   "ABBBABBBABBBABBBABBBABBBABBBABBBABBBABBBABBBABBBABBBABBBABBBABBBABBBABBBABBBABBBABBBABBB",
   "ABBBABBBABBBABBBABBBABBBABBB.BA1G.CDBRGB1JRBMB.CVCTB.BF1NMBFBRBFCRBFCRBFB.IE*.EEERC.L+GS",
   "DRCTBRCVCFLRB+BRDE1ADBEKFVIKREECFBE3DRBEBFH+BVBFGDCFCVBFEECIKEDVCEBRO.B+BEBFBE:F*.CE2ZFL",
   "EB.OIKE1BFJDCVBRDDB.CFBTCEWFEDBFJDBFDDBFF.CRP.BEZFD.CRB.BEL.FEYUBEG.B+C.GFIE1JDBFY+BF1AG",
   "BE1WFBGBFBEBGDFIGEFBGCEBFHEKFCRCIKRBDBEPFBGC.BEI.CEC.CEW.BEH.BEB.DEE.CFBEBGDFE.CGC.CGCFB",
   "EB.IGB.EEC.BEDFC.CIKECTCKGVBTBEBRBFB.CFCGB.BEG.EEC.CEW.BEH.BEC.BEC.BEC.CFB.BGDFC.EFC.CFD",
   ".DFB.HEE.BEB.HIKFCEDFBRB.KFCGB.BEJ.BED.BEW.BEH.BEC.BEF.CFBEBGDFF.BFCGB.BGCFB.CEB.PECFC.C",
   "IKRBTB.HEBFG.BFBGC.BEI.CEC.CEW.BEH.BEC.BEF.CFBEBGBFBGBFE.CGC.CGCFB.HFCGB.EEC.BEDFC.CIKVB",
   "EBKG.KFBEB.BEG.DED.BEE.DEC.BEB.BEC.DEC.DED.DEM.EGCFBGC.DGD.BGDFB.CEB.GGB.OIKKDVGTBVB.FFB",
   "GDFBEI.BED.BEX.BEQ.CFBEBFDGE.BFD.BFE.HFC.BED.CEB.CECFC.CIK.HRBKHVBEBFBGCRBEI.BED.BEX.BEK",
   ".BEF.CFBEBGBFBGF.BFBGC.BGCFC.HGC.GEC.BECFC.CIK.BECGB.MFCGCEJ.BED.BE1JFCEBGDFE.BGD.BGDFBE",
   "BVB.EEDGBKHEDFC.CIKKJVBEG.BFBGC.BES.DEY.BEJ.BEB.CEH.DFB.EGDFD.BFB.BGI.GIK.CGCRB.ME1QFBEC",
   "FH.ETBEGDBFIRBIKRC.1FEC.BEB.BEF.BEY.BEB.BEKFBECFJEB.CEF.BDB.BFH.BIK.CEE.1AEBVDRPVBRBVDFC",
   "VGIKKKVBFBVBFBVBFBNBOBNBOBGCEI.BE1E.EFOGBFFRBFCEFFL.BF1E.BVIFBVG.BVCRFVERC.1FE1LGCFEGBFG",
   "GBFCGCFCEBIKRGEGGCFCEEFDEBGDECGHEDFEENFBGCFCGGFBEBGBIKGDFBVCA1G.BAB.FAB.CB1LRBDBBDEaJ.BE",
   "E.CEH.BEB.BEE.CE1J.BEE.CE1B.BEE.CEH.BEB.BEE.CEP.BE1Z.BEE.CE2D.CFDRJKU.DEQVK.GA2W.CBG.CMB",
   "EjMVBRBERWBE+NBOB.DE2LRDJDEI.HESFDGB.JETFCGBRC.JESFC.MEN.BED.BFC.ME1UFCGBFHGIFBGCFLRDDBR",
   "DTBEBFB.CIK.GKK.GRGMBREFD+BFBIK.GE1DDBE1V.HEFFCE1CFBEB.FE2G.KE;.BFDGEFCGD.EGCFBGGFD.EVB.",
   "DRCIKE:.CEF.LE1M.EE+.GIKKB.DV1CEXFCGCFB.CRCE1VGBFBGBFH.BFBGBFBGCFIGGFK.CFBIK.GIK.GRHDBRG",
   ".CFOHBFQ.1RFEGBE1PFBGBFFGBFBGFFBGCEI.DIKRHVKFJVJRC.BFCGBE:GBFEGCFCGBFDECIKE1MFBGBFCGDFBG",
   "BFDGC.IREE1EGIFIGCFC.DRFIK.DEDIKE:DGRCBJ.HA1L.CADRI.IFDRBFNGBFHEEFBEGFBECGBFCEB.FB1MD1;B",
   "NDBB1CD1FF2AABBBABBBABBBABBBABBBABBBABBBABBBABBBABBBABBBABBBABBBABBBABBBABBBABBBABBBABBB",
   "ABBBABBBABBBABBBABBBABBBABBBABBBABBBABBBABBBABBBABBBABBBABBBABBBABBBABBBABBBABBBABBBABBB",
   "ABBBABBBABBBABBBABBBABBBABBBABBBABBBABBBABBBABBBABBBABBBABBBABBBABBBABBBABBBABBBABBBABBB",
   "ABBBABBBABBBABBBABBBABBBABBBABBBABBBABBBABBBABBJABBBABBBABBBABBBABBBABBBABBBABBBABBBABBB",
   "ABBBABBBABBBABBBABBBABBBABBBABBBABBBABBBABBBABBBABBBABBBABBBABBBABBBABBBABBBABBBABBBABBB",
   "ABBBABBBABBBABBBABBBABBBABBBABBBABBBABBBABBBABBBABBBABBBABBBABBBABBJAIBG.CAG.CBIAIBIAIBG",
   ".CAG.CBI.BAB.BAB.BAB.BABBIAIBO.CBICIBICIBICIBF.BBCAECBUBBBUDBD.BBCAECBUDBE.CBCAE.BUDBIAF",
   "UD.CBD.BBCAECBUC.BWL+FMGRCPBQBNBPCQBNBPBRIXBYB+FWBRJPBQBRELCRDSBNBOBRLSBRBLBRKWB+F.B+KKB",
   "DB.CKGSDNBOBDBKKSDNBOB.BDN.DT1B.PFNHEFBHDFM.PVCABVEABVCBBADBCADBBVBABVCSBAFVGABVBABVBABV",
   "BAEVBBBAEBBEEBBVCBCACSFABBEVBSBVCBBVBKQJ1DABBBJEKBVC.ESFVFSCVESBVCSBVCSBVHSBV;SCVCSBVBSB",
   "V;S8MVINBOBNBOBVUSCVHNBOBV2RSBV:SZV1ISGV2F.ZVL.VK1=V2OKWV5XSBVJSBV1WSIV3PSBV7YNBOBNBOBNB",
   "OBNBOBNBOBNBOBNBOBK:V1MSFNBOBS;NBOBNBOBNBOBNBOBNBOBSQV8AS4DNBOBNBOBNBOBNBOBNBOBNBOBNBOBN",
   "BOBNBOBNBOBNBOBS1;NBOBNBOBS1ANBOBS8CV1QSVVCSGV1H.CV1A.BV3JA1QB1QABBBADBCABBBABBBABBBAEBB",
   "ABBCABBGDCADBBABBBABBBABBBABBBABBBABBBABBBABBBABBBABBBABBBABBBABBBABBBABBBABBBABBBABBBAB",
   "BBABBBABBBABBBABBBABBBABBBABBBABBBABBBABBBABBBABBBABBBABBBABBBABBBABBBABBBABBBABBBABBBAB",
   "BBABBBABBBABBBABBBABBBABBBABBBABBCVGABBBABBBFDABBB.FREKBRCB1G.BBB.FBB.CE1Y.HDBRB.OFBEX.J",
   "EH.BEH.BEH.BEH.BEH.BEH.BEH.BEH.BF1ARCPBQBPBQBRDPBQBRBPBQBRJMBRCMBRBPBQBRCPBQBNBOBNBOBNBO",
   "BNBOBRFDBRKMCREMBRBNBRNVCRDNBOBNBOBNBOBNBOBMB.1CV+.BV2Z.MV6W.+VM.EWBRDVBDBEBJBNBOBNBOBNB",
   "OBNBOBNBOBVCNBOBNBOBNBOBNBOBMBNBOCVBJJFEGCMBDFVCJDDBEBRBVC.BE2W.CFCUCDCEBMBE2+RBDDEB.FE1",
   "L.BE2:.BVCKEVKE1AV1E.MEQV;.BKKV:KIVBKPV1AKKV1HKPVaAE6eAV2AEkgVDBE13X.DV1X.JE1IDGRCE8MDBR",
   "DEQIKEC.UABBBABBBABBBABBBABBBABBBABBBABBBABBBABBBABBBABBBABBBABBBABBBABBBABBBABBBABBBABB",
   "BABBBABBBABBBEBFBHDRBFKRBDBABBBABBBABBBABBBABBBABBBABBBABBBABBBABBBABBBABBBABBBABBBDCFCE",
   "2GJKFCRG.IUXDJUCABBBABBBABBBABBBABBBABBBABBDABBBABBBABBBABBBABBBABBBABBBABBBABBBABBBABBB",
   "ABBBABBBABBBABBBABBBABBBABBBABBBABBBABBBABBBABBBABBBABBBABBBABBBABBBABBBABBBABBBDBBIABBB",
   "ABBBACBBABBBABBBABBBABBBDBUCABBBABBBEBABBBABBDABBBABBBABBBABBBABBBABBBABBBABBBABBBABBBAF",
   "BBAFBBABBBABBBABBBABBBABBBABBBABBBAEBBABBB.FABBB.BBB.BBBABBBABBB.YDDABBBEBDCBBEHFBEDFBEE",
   "FBEXGCFCGBVEFB.DKGVCTBVB.GE1URE.IGCE1SGQFC.IRCIK.GFSEGRDEBRBECFBIKE=FIRCEXFLGC.LRBE..DFD",
   "GBE1PFBGCFEGCFCGDRN.BDBIK.ERCEFFBDBEJIKEF.BE1JFGGCFCGCFC.JEDFBEIFBGB.CIK.CREEQDBEGVDEBGB",
   "FBGBE1SFBEBFDECFCEFFCEBFBEB.YECDBRCELGBFCGCRCEBDCGBFB.KEG.CEG.CEG.JEH.BEH.BB1LUBDEBJDBUC",
   ".EB2QE1DGCFBGCFBGCRBGBFB.CIK.GEatE.MEX.EE1R.E*20A=68AEbO.CE3K.1GBH.MBF.FEBFBEKSBEN.BEF.B",
   "EB.BEC.BEC.BE3MUR.QEbLOBNBVQE2A.CE1W.HVB.1AEMTBVDFQRHNBOBRB.GFQRBMCLCNBOBNBOBNBOBNBOBNBO",
   "BNBOBNBOBNBOBRCNBOBRELDRD.BREMBNBOBNBOBNBOBRDSBMBSD.BRBTBRC.EEF.BE4H.C+B.BRDTBRDNBOBRBSB",
   "RBMBRCIKRCSDRCA+NBRBOBUBLBUBB+NBSBOBSBNBOBRBNBOBRCEKDBE1NDCE;.DEG.CEG.CEG.CED.DTCSBUBVBT",
   "C.BVBSEVC.K+DVC.CEM.BE+.BET.BEC.BEP.CEO.1CE3*.FRD.EK1N.DVJJ1VKEVRKCVD.BVN.DVB.1PV1NFB.4C",
   "E..DE1R.PFBK*.EE1AKE.JEUJBEIJB.FE1GFF.FE:.BRBE1E.EEIRBJF.1KA1IB1IE2O.CIK.GA1E.EB1E.EE1I.",
   "IE1U.LRBAL.BAP.BAH.BAC.BBL.BBP.BBH.BBC.2DE9X.JEW.KEI.YDG.BD1K.BDJ.2FEG.CEB.BE1M.BEC.DEB.",
   "CEX.BRBKIEXVCKHE;.IKJ.1QET.BEC.FKFEWKG.DRBE+.FRB.2AE1Y.EKCECKQ.CK1OEBFD.BFC.FFEEE.BED.BE",
   "..CFD.EFBKJ.HRJ.HE.KCRBE.KD.1AEIVBE=FC.EKFRH.JE1W.DRHEW.CKIET.FKIES.HRE.MKH.2QE2J.1XA1T.",
   "NB1T.HKGE1EFE.IIK.9GK;.BE1K.BFCMB.CEC.2LFDE.KKEB.IEWFLKERF.WESFERE.1GEVKH.UEX.JGBFBGBE1V",
   "FPRH.EKUIKFBECFCEB.JFDGBE1NGDFEGCFCRC+BREFB.K+B.CEZ.HIK.GFDE1EFFGBFI.BIKREEBGCEB.IE1DFBR",
   "CEB.JFCGBE1QGDFJGCEEREFERBGBFBIKEBRBEBRD.BKU.LES.BEZGDFDGCFBGBFCRGFBECFB.1:EH.BEB.BEE.BE",
   "P.BEKRB.GE1PFBGDFI.FIK.GFCGC.BEI.CEC.CEW.BEH.BEC.BEF.BFCEBGCFBGE.CGC.CGD.CEB.GGB.FEFGC.C",
   "FH.DFF.4LE1VGDFIGCFDGBFBEERFIKRC.BRBFBED.:E1QGDFGGBFBGEFCGBFCECRBEB.IIK.5GE1PGDFE.CGEFCG",
   "BFCRXEEFC.1CE1QGDFIGCFBGBFCRDEB.LIK.GRN.TE1LFBGBFBGCFGGBFBEBRB.GIK.1WE*.CFDGCFEGBFF.EIKK",
   "CRDVBEH.5ZE1MGDFJGBFCRB.3EA1AB1AIKKJ.MEI.CEB.CEI.BEC.BEYGG.BGC.CFCGBFBEBGBEBGBFBRD.JIK.2",
   "GEI.CE1HGDFE.CFCGEFBEBRBEBGB.*EBFKE1IFGGBEBFERIFB.IEBFGGCFDE1OFNGBFCRDEBRF.NE2J.HRK.7WEJ",
   ".BE1FGBFH.BFGGBFBEBRF.KIKKT.DRCE:.CFW.BGBFHGBFCGBFC.2JEH.BEC.BE1GFG.DFB.BFC.BFHEBFB.IIK.",
   "GEG.BEC.BE1AGF.BFC.BGCFBGBFBEB.HIK.9WETFCGCRC.HFCEBGBEN.BE1CGCFF.DGCFBGBFBRNIK.2WEB.PKVV",
   "ITEVR.NRBEs+.3GJ3P.BRF.LE6E.2iME3BRC.NE11Q+QFBEGFP.3tKEiH.8dZEhZ.HE;.BIK.ERCE2P.BIK.GE:.",
   "CFFRB.KE1QFHRFVEDERBVB.KIK.BKH.BEV.FET.lQA1AB1AKXRE.3FE2L.EFBEBG1X.HFEDN.2ADCRBDBFB.LGC.",
   "OE5vY.IE16W.1KEJ.8nHDE.BDH.BDC.BE9D.PEB..ED.CEB.OEE.IEcM.28EE3L.FEN.DEJ.HEK.CVBFCRB+E.4i",
   "=F1O.CFX.JV3U.1=V7W.KV1H.CV1=GCFDVDGG+IFIVCFHV:FEV1..VV2CFDVB.3+KU.MKU.MV2X.JKZ.4HA+B+A+",
   "BH.BBSA+B+AB.BAC.CAB.CAC.CAE.BAIBE.BBB.BBH.BBLA+B+AC.BAE.CAI.BAH.BB+AC.BAE.BAF.BAB.DAH.B",
   "B+A+B+A+B+A+B+A+B+A+B+A+B=.CAZSBBZSBBGAZSBBZSBBGAZSBBZSBBGAZSBBZSBBGAZSBBZSBBGABBB.CI1SV",
   "gAF1XVEF1SVIFBVOFBVCRF.PFF.BFP.12QBKEBBU.GBG.6VFH.BFR.CFH.BFC.BFF.FD1:.1BFB.3QE1N.DFHDH.",
   "CIK.EEBVB.aAE:FB.RE1MFEIK.FTB.eQE*DBFEIK.nGEH.BEE.BEC.BEP.BE6F.CKJFH.1JA1CB1CFHDB.EIK.ER",
   "C.oRK1*VBKDTBKE.2MK1NVBKP.6CEE.BE*.BEC.BEB.CEB.BEK.BEE.BEB.BEB.GEB.EEB.BEB.BEB.BED.BEC.B",
   "EB.CEB.BEB.BEB.BEB.BEB.BEC.BEB.CEE.BEH.BEE.BEE.BEB.BEK.BER.FED.BEF.BER.1USC.8OV1M.EV3E.M",
   "VP.CVP.BVP.BV1F.KKNV5B.1YV..NV1M.EVJ.HVC.OVG.4+V7*UFVmY.EVR.DVN.DV3X.EV2;.GVM.EVB.PVM.EV",
   "1Y.IVK.GV1I.IV:.CVC.2OVaU.MVO.CVN.DVJ.HV1O.BVH.IVO.EVJ.HVJ.HV4T.BV1X.1FIK.10GE19nA.1AE41",
   "+.GE6:.CE5kC.OE79R.30;Eg:.1fCE4qL.FE43A.ln2R+B.:+3A.4AF7Q.1vgQ=1vv:.C=1vv:."]

end Patternwork.Unicode
