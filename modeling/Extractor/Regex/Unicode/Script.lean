import Extractor.Text.Runs

/-!
# Extractor.Regex.Unicode.Script

The scripts of characters. A character has one script, and some that are common to
several scripts are listed with those that they are used in.
-/

namespace Extractor.Regex.Unicode

/-- The scripts of all code points, where an equals sign stands before the scripts that a character
is used in. -/
def scriptLines : List String := [
  "zyyy*65 latn*26 zyyy*6 latn*26 zyyy*47 latn zyyy*12",
  "zyyy=avst.cari.copt.dupl.elba.geor.glag.gong.goth.grek.hani.latn.lydi.mahj.perm.shaw zyyy*2",
  "latn zyyy*5 latn*23 zyyy latn*31 zyyy latn*449 zyyy*3 zyyy=beng.cyrl.deva.latn.lisu.thai.toto",
  "zyyy*10 zyyy=bopo.latn zyyy zyyy=bopo.latn*3 zyyy zyyy=latn.lisu zyyy*9 zyyy=latn.thai zyyy",
  "zyyy=bopo.latn zyyy*6 latn*5 zyyy*5 bopo*2 zyyy*20 zinh=cher.copt.cyrl.grek.latn.perm.sunu.tale",
  "zinh=cher.cyrl.grek.latn.osge.sunu.tale.todr zinh=cher.cyrl.latn.tfng",
  "zinh=glag.latn.sunu.syrc.thai zinh=aghb.cher.copt.cyrl.goth.grek.latn.osge.syrc.tfng.todr",
  "zinh=copt.elba.glag.goth.kana.latn zinh=cyrl.grek.latn.perm.tfng",
  "zinh=copt.dupl.hebr.latn.perm.syrc.tale.tfng.todr",
  "zinh=armn.cyrl.dupl.goth.grek.hebr.latn.perm.syrc.tale.tfng zinh=latn.tfng zinh=dupl.latn.syrc",
  "zinh=cher.cyrl.latn.osge zinh=cher.latn.tale zinh=latn.sunu zinh=ethi.latn zinh zinh=latn.sunu",
  "zinh=cyrl.latn.todr zinh zinh=grek.latn.perm.todr zinh*15 zinh=cher.dupl.kana.latn.syrc.tfng",
  "zinh=cher.dupl.latn.syrc zinh=latn.syrc zinh*7 zinh=latn.sunu.syrc zinh=latn.syrc zinh",
  "zinh=cher.latn.syrc zinh=aghb.cher.goth.latn.sunu.syrc.thai zinh*16 zinh=grek zinh*2 zinh=grek",
  "zinh*18 zinh=latn.osge zinh*5 zinh=aghb.latn.todr zinh*4 zinh=latn*13 grek*4 zyyy=copt.grek",
  "grek=copt.grek grek*2 -*2 grek*4 zyyy grek -*4 grek zyyy grek zyyy grek*3 - grek - grek*20 -",
  "grek*63 copt*14 grek*16 cyrl*131 cyrl=cyrl.perm cyrl=cyrl.glag zinh=cyrl.latn*2 cyrl=cyrl.glag",
  "cyrl*168 - armn*38 -*2 armn*48 armn=armn.geor.glag armn -*2 armn*3 - hebr*55 -*8 hebr*27 -*4",
  "hebr*6 -*11 arab*5 zyyy arab*6 zyyy=arab.gara.nkoo.rohg.syrc.thaa.yezi arab*14",
  "zyyy=arab.gara.nkoo.rohg.syrc.thaa.yezi arab=arab.syrc.thaa arab*2",
  "zyyy=adlm.arab.gara.nkoo.rohg.syrc.thaa.yezi arab*32",
  "zyyy=adlm.arab.mand.mani.ougr.phlp.rohg.sogd.syrc arab*10 zinh=arab.syrc*11 arab*10",
  "arab=arab.thaa.yezi*10 arab*6 zinh=arab.syrc arab*99 arab=arab.rohg arab*8 zyyy arab*34 syrc*14",
  "- syrc*60 -*2 syrc*3 arab*48 thaa*50 -*14 nkoo*59 -*2 nkoo*3 samr*46 -*2 samr*15 - mand*28 -*2",
  "mand - syrc*11 -*5 arab*31 - arab*2 -*5 arab*75 zyyy arab*29 deva*81",
  "zinh=beng.deva.gran.gujr.guru.knda.latn.mlym.nand.newa.orya.shrd.taml.telu.tirh",
  "zinh=beng.deva.gran.gujr.guru.knda.latn.mlym.newa.orya.taml.telu.tirh zinh*2 deva*15",
  "zyyy=beng.deva.dogr.gong.gonm.gran.gujr.guru.knda.mahj.mlym.nand.onao.orya.sind.sinh.sylo.takr.taml.telu.tirh",
  "zyyy=beng.deva.dogr.gong.gonm.gran.gujr.gukh.guru.knda.limb.mahj.mlym.nand.onao.orya.sind.sinh.sylo.takr.taml.telu.tirh",
  "deva=deva.dogr.kthi.mahj*10 deva*16 beng*4 - beng*8 -*2 beng*2 -*2 beng*22 - beng*7 - beng -*3",
  "beng*4 -*2 beng*9 -*2 beng*2 -*2 beng*4 -*8 beng -*4 beng*2 - beng*5 -*2 beng=beng.cakm.sylo*10",
  "beng*15 -*2 guru*3 - guru*6 -*4 guru*2 -*2 guru*22 - guru*7 - guru*2 - guru*2 - guru*2 -*2 guru",
  "- guru*5 -*4 guru*2 -*2 guru*3 -*3 guru -*7 guru*4 - guru -*7 guru=guru.mult*10 guru*7 -*10",
  "gujr*3 - gujr*9 - gujr*3 - gujr*22 - gujr*7 - gujr*2 - gujr*5 -*2 gujr*10 - gujr*3 - gujr*3 -*2",
  "gujr -*15 gujr*4 -*2 gujr=gujr.khoj*10 gujr*2 -*7 gujr*7 - orya*3 - orya*8 -*2 orya*2 -*2",
  "orya*22 - orya*7 - orya*2 - orya*5 -*2 orya*9 -*2 orya*2 -*2 orya*3 -*7 orya*3 -*4 orya*2 -",
  "orya*5 -*2 orya*18 -*10 taml*2 - taml*6 -*3 taml*3 - taml*4 -*3 taml*2 - taml - taml*2 -*3",
  "taml*2 -*3 taml*3 -*3 taml*12 -*4 taml*5 -*3 taml*3 - taml*4 -*2 taml -*6 taml -*14",
  "taml=gran.taml*14 taml*7 -*5 telu*13 - telu*3 - telu*23 - telu*16 -*2 telu*9 - telu*3 - telu*4",
  "-*7 telu*2 - telu*3 -*2 telu -*2 telu*4 -*2 telu*10 -*7 telu*9 knda*13 - knda*3 - knda*23 -",
  "knda*10 - knda*5 -*2 knda*9 - knda*3 - knda*4 -*7 knda*2 -*6 knda*2 - knda*4 -*2",
  "knda=knda.nand.tutg*10 - knda*3 -*12 mlym*13 - mlym*3 - mlym*51 - mlym*3 - mlym*6 -*4 mlym*16",
  "-*2 mlym*26 - sinh*3 - sinh*18 -*3 sinh*24 - sinh*9 - sinh -*2 sinh*7 -*3 sinh -*4 sinh*6 -",
  "sinh - sinh*8 -*6 sinh*10 -*2 sinh*3 -*12 thai*58 -*4 zyyy thai*28 -*37 laoo*2 - laoo - laoo*5",
  "- laoo*24 - laoo - laoo*23 -*2 laoo*5 - laoo - laoo*7 - laoo*10 -*2 laoo*4 -*32 tibt*72 -",
  "tibt*36 -*4 tibt*39 - tibt*36 - tibt*15 - tibt*7 zyyy*4 tibt*2 -*37 mymr*64",
  "mymr=cakm.mymr.tale*10 mymr*86 geor*38 - geor -*5 geor -*2 geor*43 zyyy=geor.glag.latn geor*4",
  "hang*256 ethi*73 - ethi*4 -*2 ethi*7 - ethi - ethi*4 -*2 ethi*41 - ethi*4 -*2 ethi*33 - ethi*4",
  "-*2 ethi*7 - ethi - ethi*4 -*2 ethi*15 - ethi*57 - ethi*4 -*2 ethi*67 -*2 ethi*32 -*3 ethi*26",
  "-*6 cher*86 -*2 cher*6 -*2 cans*640 ogam*29 -*3 runr*75 zyyy=runr*3 runr*11 -*7 tglg*22 -*9",
  "tglg hano*21 zyyy=buhd.hano.tagb.tglg*2 -*9 buhd*20 -*12 tagb*13 - tagb*3 - tagb*2 -*12 khmr*94",
  "-*2 khmr*10 -*6 khmr*10 -*6 mong*2 zyyy=mong.phag*2 mong zyyy=mong.phag mong*20 -*6 mong*89 -*7",
  "mong*43 -*5 cans*70 -*10 limb*31 - limb*12 -*4 limb*12 -*4 limb -*3 limb*12 tale*30 -*2 tale*5",
  "-*11 talu*44 -*4 talu*26 -*6 talu*11 -*3 talu*2 khmr*32 bugi*28 -*2 bugi*2 lana*63 - lana*29",
  "-*2 lana*11 -*6 lana*10 -*6 lana*14 -*2 zinh*31 -*49 bali*77 - bali*50 sund*64 batk*52 -*8",
  "batk*4 lepc*56 -*3 lepc*15 -*3 lepc*3 olck*48 cyrl*11 -*5 geor*43 -*2 geor*3 sund*8 -*8",
  "zinh=beng.deva.gran.knda zinh=deva zinh=beng.deva.gran.knda zyyy=deva.gran.knda zinh=deva",
  "zinh=beng.deva.newa.telu.tirh zinh=beng.deva.telu zinh=deva.newa.shrd zinh=beng.deva.newa.telu",
  "zinh=deva.shrd zinh=deva.knda.mlym.orya.taml.telu zinh=deva zinh=deva.shrd*2 zinh=deva*2",
  "zinh=deva.shrd zyyy=beng.deva zinh=deva.newa.tirh zinh=deva*6 zyyy=deva.nand.newa",
  "zyyy=beng.deva.shrd zyyy=deva.newa zyyy=deva zinh=beng.deva.newa.shrd zyyy=deva*4",
  "zyyy=beng.deva.gran.knda.mlym.nand.orya.sinh.telu.tirh.tutg zyyy=deva.gran",
  "zinh=deva.gran.knda.tutg zyyy=beng.deva*2 zyyy=beng zinh=deva.gran*2 zyyy=nand -*5 latn*38",
  "grek*5 cyrl latn*49 grek*5 latn*4 grek*5 latn*13 cyrl latn*70 grek zinh=grek*2 zinh*54",
  "zinh=cyrl.latn.syrc zinh zinh=syrc zinh*5 latn*256 grek*22 -*2 grek*6 -*2 grek*38 -*2 grek*6",
  "-*2 grek*8 - grek - grek - grek - grek*31 -*2 grek*53 - grek*15 - grek*14 -*2 grek*6 - grek*19",
  "-*2 grek*3 - grek*9 - zyyy*12 zinh*2 zyyy*33 zyyy=latn.mong.phag zyyy*31 zyyy=adlm.arab zyyy*10",
  "zyyy=cari.geor.glag.hung.lyci.orkh zyyy*2 zyyy=cari.grek.hung.mero zyyy*7 - zyyy*11 latn -*2",
  "zyyy*11 latn zyyy*15 - latn*13 -*3 zyyy*33 -*15 zinh*32 zinh=deva.gran.latn -*15 zyyy*38 grek",
  "zyyy*3 latn*2 zyyy*6 latn zyyy*27 latn zyyy*17 latn*41 zyyy*3 -*4 zyyy*666 -*22 zyyy*11 -*21",
  "zyyy*928 brai*256 zyyy*628 -*2 zyyy*32 - zyyy*105 glag*96 latn*32 copt*116 -*5 copt*7 geor*38 -",
  "geor -*5 geor -*2 tfng*56 -*7 tfng*2 -*14 tfng ethi*23 -*9 ethi*7 - ethi*7 - ethi*7 - ethi*7 -",
  "ethi*7 - ethi*7 - ethi*7 - ethi*7 - cyrl*32 zyyy*23 zyyy=copt.latn zyyy*24 zyyy=avst.orkh",
  "zyyy=avst.cari.geor.hung.kthi.lydi.samr zyyy*10 zyyy=dupl zyyy*4 zyyy=adlm.arab.hung zyyy",
  "zyyy=cyrl.glag zyyy*26 -*34 hani*26 - hani*89 -*12 hani*214 -*26 zyyy=hani.tang*16 zyyy",
  "zyyy=bopo.hang.hani.hira.kana.mong.yiii zyyy=bopo.hang.hani.hira.kana.mong.phag.yiii",
  "zyyy=bopo.hang.hani.hira.kana zyyy hani zyyy=hani hani",
  "zyyy=bopo.hang.hani.hira.kana.mong.tibt.yiii*2",
  "zyyy=bopo.hang.hani.hira.kana.lisu.mong.tibt.yiii*2 zyyy=bopo.hang.hani.hira.kana.yiii*6 zyyy",
  "zyyy=bopo.hang.hani.hira.kana zyyy=bopo.hang.hani.hira.kana.yiii*8",
  "zyyy=bopo.hang.hani.hira.kana*4 zyyy hani*9 zinh=bopo.hani*4 hang*2",
  "zyyy=bopo.hang.hani.hira.kana zyyy=hira.kana*5 zyyy zyyy=bopo.hang.hani.hira.kana hani*4",
  "zyyy=hani.hira.kana*2 zyyy=hani*2 - hira*86 -*2 zinh=hira.kana*2 zyyy=hira.kana*2 hira*3",
  "zyyy=hira.kana kana*90 zyyy=bopo.hang.hani.hira.kana.yiii zyyy=hira.kana kana*3 -*5 bopo*43 -",
  "hang*94 - zyyy=hani*16 bopo*32 zyyy=hani*38 -*9 zyyy=hani.tang kana*16 hang*31 - zyyy=hani*40",
  "zyyy*24 hang*31 zyyy zyyy=hani*49 zyyy*15 zyyy=hani*12 zyyy*4 kana*47 zyyy=hani kana*88",
  "zyyy=hani*25 zyyy*10 zyyy=hani*5 zyyy*96 zyyy=hani*31 zyyy hani*6592 zyyy*64 hani*20992",
  "yiii*1165 -*3 yiii*55 -*9 lisu*48 vaii*300 -*20 cyrl*47 cyrl=cyrl.glag cyrl*48 bamu*88 -*8",
  "zyyy=hani.latn*8 zyyy*26 latn*102 zyyy*3 latn*67 -*2 latn*2 - latn - latn*8 -*21 latn*14",
  "sylo*45 -*3",
  "zyyy=deva.dogr.gujr.guru.khoj.knda.kthi.mahj.mlym.modi.nand.shrd.sind.takr.tirh.tutg*3",
  "zyyy=deva.dogr.gujr.guru.khoj.knda.kthi.mahj.modi.nand.shrd.sind.takr.tirh.tutg*3",
  "zyyy=deva.dogr.gujr.guru.khoj.kthi.mahj.modi.sind.takr.tirh*2",
  "zyyy=deva.dogr.gujr.guru.khoj.kthi.mahj.modi.shrd.sind.takr.tirh",
  "zyyy=deva.dogr.gujr.guru.khoj.kthi.mahj.modi.sind.takr.tirh -*6 phag*56 -*8 saur*70 -*8 saur*12",
  "-*6 deva*17 deva=beng.deva.tutg deva deva=deva.taml deva*12 kali*46 zyyy=kali.latn.mymr kali",
  "rjng*36 -*11 rjng hang*29 -*3 java*78 - zyyy=bugi.java java*10 -*4 java*2 mymr*31 - cham*55 -*9",
  "cham*14 -*2 cham*10 -*2 cham*4 mymr*32 tavt*67 -*24 tavt*5 mtei*23 -*10 ethi*6 -*2 ethi*6 -*2",
  "ethi*6 -*9 ethi*7 - ethi*7 - latn*43 zyyy latn*9 grek latn*4 zyyy*2 -*4 cher*80 mtei*46 -*2",
  "mtei*10 -*6 hang*11172 -*12 hang*23 -*4 hang*49 -*8452 hani*366 -*2 hani*106 -*38 latn*7 -*12",
  "armn*5 -*5 hebr*26 - hebr*5 - hebr - hebr*2 - hebr*2 - hebr*10 arab*115 -*16 arab*363",
  "zyyy=arab.nkoo*2 arab*80 -*2 arab*54 -*7 arab -*32 arab*2 arab=arab.thaa arab*10 arab=arab.thaa",
  "arab*2 zinh*16 zyyy*10 -*6 zinh*14 cyrl*2 zyyy*21 zyyy=bopo.hang.hani.hira.kana*2 zyyy*12 -",
  "zyyy*19 - zyyy*4 -*4 arab*5 - arab*135 -*2 zyyy - zyyy*32 latn*26 zyyy*6 latn*26 zyyy*6",
  "zyyy=bopo.hang.hani.hira.kana.yiii*5 kana*10 zyyy=hira.kana kana*45 zyyy=hira.kana*2 hang*31",
  "-*3 hang*6 -*2 hang*6 -*2 hang*6 -*2 hang*3 -*3 zyyy*7 - zyyy*7 -*10 zyyy*5 -*2 linb*12 -",
  "linb*26 - linb*19 - linb*2 - linb*15 -*2 linb*14 -*34 linb*123 -*5 zyyy=cpmn.cprt.linb*2",
  "zyyy=cprt.linb -*4 zyyy=cprt.lina.linb*45 -*3 zyyy=cprt.linb*9 grek*79 - zyyy*13 -*3 grek -*47",
  "zyyy*45 zinh -*130 lyci*29 -*3 cari*49 -*15 zinh=arab.copt zyyy=arab.copt*27 -*4 ital*36 -*9",
  "ital*3 goth*27 -*5 perm*43 -*5 ugar*30 - ugar xpeo*36 -*4 xpeo*14 -*42 dsrt*80 shaw*48 osma*30",
  "-*2 osma*10 -*6 osge*36 -*4 osge*36 -*4 elba*40 -*8 aghb*52 -*11 aghb vith*11 - vith*15 -",
  "vith*7 - vith*2 - vith*11 - vith*15 - vith*7 - vith*2 -*3 todr*52 -*12 lina*311 -*9 lina*22",
  "-*10 lina*8 -*24 latn*6 - latn*42 - latn*9 -*69 cprt*6 -*2 cprt - cprt*44 - cprt*2 -*3 cprt -*2",
  "cprt armi*22 - armi*9 palm*32 nbat*31 -*8 nbat*9 -*48 hatr*19 - hatr*2 -*5 hatr*5 phnx*28 -*3",
  "phnx lydi*26 -*5 lydi -*64 mero*32 merc*24 -*4 merc*20 -*2 merc*46 khar*4 - khar*2 -*5 khar*8 -",
  "khar*3 - khar*29 -*2 khar*3 -*4 khar*10 -*7 khar*9 -*7 sarb*32 narb*32 -*32 mani*39 -*4 mani*7",
  "mani=mani.ougr mani*4 -*9 avst*54 -*3 avst*7 prti*22 -*2 prti*8 phli*19 -*5 phli*8 phlp*18 -*7",
  "phlp*4 -*12 phlp*7 -*80 orkh*73 -*55 hung*51 -*13 hung*51 -*7 hung*6 rohg*40 -*8 rohg*10 -*6",
  "gara*38 -*3 gara*29 -*8 gara*2 -*208 arab*31 - yezi*42 - yezi*3 -*2 yezi*2 -*16 arab*3 -*55",
  "arab*4 sogo*40 -*8 sogd*42 -*22 ougr*26 -*38 chrs*28 -*20 elym*23 -*9 brah*78 -*4 brah*36 -*9",
  "brah kthi*67 -*10 kthi -*2 sora*25 -*7 sora*10 -*6 cakm*53 - cakm*18 -*8 mahj*39 -*9 shrd*96 -",
  "sinh*20 -*11 khoj*18 - khoj*47 -*62 mult*7 - mult - mult*4 - mult*15 - mult*11 -*6 sind*59 -*5",
  "sind*10 -*6 gran gran=gran.taml gran gran=gran.taml - gran*8 -*2 gran*2 -*2 gran*22 - gran*7 -",
  "gran*2 - gran*5 - zinh=gran.taml gran=gran.taml gran*8 -*2 gran*2 -*2 gran*3 -*2 gran -*6 gran",
  "-*5 gran*7 -*2 gran*7 -*3 gran*5 -*11 tutg*10 - tutg -*2 tutg - tutg*38 - tutg*10 - tutg -*2",
  "tutg - tutg*4 - tutg*10 - tutg*2 -*8 tutg*2 -*29 newa*92 - newa*5 -*30 tirh*72 -*8 tirh*10",
  "-*166 sidd*54 -*2 sidd*38 -*34 modi*69 -*11 modi*10 -*6 mong*13 -*19 takr*58 -*6 takr*10 -*6",
  "mymr*20 -*28 ahom*27 -*2 ahom*15 -*4 ahom*23 -*185 dogr*60 -*100 wara*83 -*12 wara diak*7 -*2",
  "diak -*2 diak*8 - diak*2 - diak*30 - diak*2 -*2 diak*12 -*9 diak*10 -*70 nand*8 -*2 nand*46 -*2",
  "nand*11 -*27 zanb*72 -*8 soyo*83 -*13 cans*16 pauc*57 -*7 deva*10 -*182 sunu*34 -*14 sunu*10",
  "-*6 bhks*9 - bhks*45 - bhks*14 -*10 bhks*29 -*3 marc*32 -*2 marc*22 - marc*14 -*73 gonm*7 -",
  "gonm*2 - gonm*44 -*3 gonm - gonm*2 - gonm*9 -*8 gonm*10 -*6 gong*6 - gong*2 - gong*37 - gong*2",
  "- gong*6 -*7 gong*10 -*310 maka*25 -*7 kawi*17 - kawi*41 -*3 kawi*29 -*85 lisu -*15 taml*16",
  "taml=gran.taml*2 taml taml=gran.taml taml*30 -*13 taml xsux*922 -*102 xsux*111 - xsux*5 -*11",
  "xsux*196 -*2636 cpmn*99 -*13 egyp*1110 -*10 egyp*3995 -*5 hluw*583 -*6841 gukh*58 -*1734",
  "bamu*569 -*7 mroo*31 - mroo*10 -*4 mroo*2 tnsa*79 - tnsa*10 -*6 bass*30 -*2 bass*6 -*10 hmng*70",
  "-*10 hmng*10 - hmng*7 - hmng*21 -*5 hmng*19 -*432 krai*58 -*198 medf*91 -*101 plrd*75 -*4",
  "plrd*57 -*7 plrd*17 -*64 tang nshu hani*2 kits -*11 hani*2 -*14 tang*6136 -*8 tang*768 kits*470",
  "-*41 kits tang*9 -*8935 kana*4 - kana*7 - kana*2 - kana hira*287 kana*3 -*15 hira -*29 hira*3",
  "-*2 kana -*14 kana*4 -*8 nshu*396 -*2308 dupl*107 -*5 dupl*13 -*3 dupl*9 -*7 dupl*10 -*2 dupl*4",
  "zyyy=dupl*4 -*3932 zyyy*250 -*6 zyyy*436 -*76 zinh*46 -*2 zinh*23 -*9 zyyy*116 -*60 zyyy*246",
  "-*10 zyyy*39 -*2 zyyy*62 zinh*3 zyyy*17 zinh*8 zyyy*2 zinh*7 zyyy*30 zinh*4 zyyy*61 -*21",
  "grek*70 -*122 zyyy*20 -*12 zyyy*20 -*12 zyyy*87 -*9 zyyy=hani*18 zyyy*7 -*135 zyyy*85 - zyyy*71",
  "- zyyy*2 -*2 zyyy -*2 zyyy*2 -*2 zyyy*4 - zyyy*12 - zyyy - zyyy*7 - zyyy*65 - zyyy*4 -*2 zyyy*8",
  "- zyyy*7 - zyyy*28 - zyyy*4 - zyyy*5 - zyyy -*3 zyyy*7 - zyyy*340 -*2 zyyy*292 -*2 zyyy*50",
  "sgnw*652 -*15 sgnw*5 - sgnw*15 -*1104 latn*31 -*6 latn*6 -*213 glag*7 - glag*17 -*2 glag*7 -",
  "glag*2 - glag*5 -*5 cyrl*62 -*33 cyrl -*112 hmnp*45 -*3 hmnp*14 -*2 hmnp*10 -*4 hmnp*2 -*320",
  "toto*31 -*17 wcho*58 -*5 wcho -*464 nagm*42 -*214 onao*43 -*4 onao -*480 ethi*7 - ethi*4 -",
  "ethi*2 - ethi*15 - mend*197 -*2 mend*16 -*41 adlm*76 -*4 adlm*10 -*4 adlm*2 -*785 zyyy*68 -*76",
  "zyyy*61 -*194 arab*4 - arab*27 - arab*2 - arab -*2 arab - arab*10 - arab*4 - arab - arab -*6",
  "arab -*4 arab - arab - arab - arab*3 - arab*2 - arab -*2 arab - arab - arab - arab - arab -",
  "arab*2 - arab -*2 arab*4 - arab*7 - arab*4 - arab*4 - arab - arab*10 - arab*17 -*5 arab*3 -",
  "arab*5 - arab*17 -*52 arab*2 -*270 zyyy*44 -*4 zyyy*100 -*12 zyyy*15 -*2 zyyy*15 - zyyy*15 -",
  "zyyy*37 -*10 zyyy*174 -*56 zyyy*26 hira zyyy*2 -*13 zyyy*44 -*4 zyyy*9 -*7 zyyy=hani*2 -*14",
  "zyyy*6 -*154 zyyy*984 -*4 zyyy*17 -*3 zyyy*13 -*3 zyyy*119 -*4 zyyy*95 -*6 zyyy*12 -*4 zyyy",
  "-*15 zyyy*12 -*4 zyyy*56 -*8 zyyy*10 -*6 zyyy*40 -*8 zyyy*30 -*2 zyyy*12 -*4 zyyy*2 -*62",
  "zyyy*340 -*12 zyyy*14 -*2 zyyy*13 -*3 zyyy*10 -*5 zyyy*56 -*7 zyyy*15 -*2 zyyy*11 -*6 zyyy*9",
  "-*7 zyyy*147 - zyyy*102 -*1030 hani*42720 -*32 hani*4154 -*6 hani*222 -*2 hani*5762 -*14",
  "hani*7473 -*15 hani*622 -*2466 hani*542 -*1506 hani*4939 -*5 hani*4192 -*711761 zyyy -*30",
  "zyyy*96 -*128 zinh*240 -*196112"]

/-- The scripts of all code points. -/
def scriptRuns : Text.Runs := .ofLines scriptLines

/-- The loose names of the scripts, each with its code first. -/
def scripts : List (List String) := [
  ["adlm", "adlam"], ["aghb", "caucasianalbanian"], ["ahom"], ["arab", "arabic"],
  ["armi", "imperialaramaic"], ["armn", "armenian"], ["avst", "avestan"], ["bali", "balinese"],
  ["bamu", "bamum"], ["bass", "bassavah"], ["batk", "batak"], ["beng", "bengali"],
  ["bhks", "bhaiksuki"], ["bopo", "bopomofo"], ["brah", "brahmi"], ["brai", "braille"],
  ["bugi", "buginese"], ["buhd", "buhid"], ["cakm", "chakma"], ["cans", "canadianaboriginal"],
  ["cari", "carian"], ["cham"], ["cher", "cherokee"], ["chrs", "chorasmian"],
  ["copt", "coptic", "qaac"], ["cpmn", "cyprominoan"], ["cprt", "cypriot"], ["cyrl", "cyrillic"],
  ["deva", "devanagari"], ["diak", "divesakuru"], ["dogr", "dogra"], ["dsrt", "deseret"],
  ["dupl", "duployan"], ["egyp", "egyptianhieroglyphs"], ["elba", "elbasan"], ["elym", "elymaic"],
  ["ethi", "ethiopic"], ["gara", "garay"], ["geor", "georgian"], ["glag", "glagolitic"],
  ["gong", "gunjalagondi"], ["gonm", "masaramgondi"], ["goth", "gothic"], ["gran", "grantha"],
  ["grek", "greek"], ["gujr", "gujarati"], ["gukh", "gurungkhema"], ["guru", "gurmukhi"],
  ["hang", "hangul"], ["hani", "han"], ["hano", "hanunoo"], ["hatr", "hatran"], ["hebr", "hebrew"],
  ["hira", "hiragana"], ["hluw", "anatolianhieroglyphs"], ["hmng", "pahawhhmong"],
  ["hmnp", "nyiakengpuachuehmong"], ["hung", "oldhungarian"], ["ital", "olditalic"],
  ["java", "javanese"], ["kali", "kayahli"], ["kana", "katakana"], ["kawi"], ["khar", "kharoshthi"],
  ["khmr", "khmer"], ["khoj", "khojki"], ["kits", "khitansmallscript"], ["knda", "kannada"],
  ["krai", "kiratrai"], ["kthi", "kaithi"], ["lana", "taitham"], ["laoo", "lao"], ["latn", "latin"],
  ["lepc", "lepcha"], ["limb", "limbu"], ["lina", "lineara"], ["linb", "linearb"], ["lisu"],
  ["lyci", "lycian"], ["lydi", "lydian"], ["mahj", "mahajani"], ["maka", "makasar"],
  ["mand", "mandaic"], ["mani", "manichaean"], ["marc", "marchen"], ["medf", "medefaidrin"],
  ["mend", "mendekikakui"], ["merc", "meroiticcursive"], ["mero", "meroitichieroglyphs"],
  ["mlym", "malayalam"], ["modi"], ["mong", "mongolian"], ["mroo", "mro"], ["mtei", "meeteimayek"],
  ["mult", "multani"], ["mymr", "myanmar"], ["nagm", "nagmundari"], ["nand", "nandinagari"],
  ["narb", "oldnortharabian"], ["nbat", "nabataean"], ["newa"], ["nkoo", "nko"], ["nshu", "nushu"],
  ["ogam", "ogham"], ["olck", "olchiki"], ["onao", "olonal"], ["orkh", "oldturkic"],
  ["orya", "oriya"], ["osge", "osage"], ["osma", "osmanya"], ["ougr", "olduyghur"],
  ["palm", "palmyrene"], ["pauc", "paucinhau"], ["perm", "oldpermic"], ["phag", "phagspa"],
  ["phli", "inscriptionalpahlavi"], ["phlp", "psalterpahlavi"], ["phnx", "phoenician"],
  ["plrd", "miao"], ["prti", "inscriptionalparthian"], ["rjng", "rejang"],
  ["rohg", "hanifirohingya"], ["runr", "runic"], ["samr", "samaritan"], ["sarb", "oldsoutharabian"],
  ["saur", "saurashtra"], ["sgnw", "signwriting"], ["shaw", "shavian"], ["shrd", "sharada"],
  ["sidd", "siddham"], ["sind", "khudawadi"], ["sinh", "sinhala"], ["sogd", "sogdian"],
  ["sogo", "oldsogdian"], ["sora", "sorasompeng"], ["soyo", "soyombo"], ["sund", "sundanese"],
  ["sunu", "sunuwar"], ["sylo", "sylotinagri"], ["syrc", "syriac"], ["tagb", "tagbanwa"],
  ["takr", "takri"], ["tale", "taile"], ["talu", "newtailue"], ["taml", "tamil"],
  ["tang", "tangut"], ["tavt", "taiviet"], ["telu", "telugu"], ["tfng", "tifinagh"],
  ["tglg", "tagalog"], ["thaa", "thaana"], ["thai"], ["tibt", "tibetan"], ["tirh", "tirhuta"],
  ["tnsa", "tangsa"], ["todr", "todhri"], ["toto"], ["tutg", "tulutigalari"], ["ugar", "ugaritic"],
  ["vaii", "vai"], ["vith", "vithkuqi"], ["wara", "warangciti"], ["wcho", "wancho"],
  ["xpeo", "oldpersian"], ["xsux", "cuneiform"], ["yezi", "yezidi"], ["yiii", "yi"],
  ["zanb", "zanabazarsquare"], ["zinh", "inherited", "qaai"], ["zyyy", "common"]]

/-- The code of a script. -/
def scriptCode? (name : String) : Option String :=
  (scripts.find? (·.contains name)).bind List.head?

/-- The characters of a script. -/
def script? (name : String) : Option Text.Ranges :=
  (scriptCode? name).map fun script =>
    scriptRuns.select fun code => code.takeWhile (· ≠ '=') = script.toList

/-- The characters that are used in a script. -/
def scriptExtensions? (name : String) : Option Text.Ranges :=
  (scriptCode? name).map fun script => scriptRuns.select fun code =>
    match Text.splitFirst? ['='] code with
    | some (_, used) => (Text.splitOn '.' used).contains script.toList
    | none => code = script.toList

end Extractor.Regex.Unicode
