import Extractor.Text.Runs

/-!
# Extractor.Regex.Unicode.Category

The general categories of characters. Every code point has one, and the groups of
categories go by names of their own.
-/

namespace Extractor.Regex.Unicode

/-- The categories of all code points. -/
def categoryLines : List String := [
  "cc*32 zs po*3 sc po*3 ps pe po sm po pd po*2 nd*10 po*2 sm*3 po*2 lu*26 ps po pe sk pc sk ll*26",
  "ps sm pe sm cc*33 zs po sc*4 so po sk so lo pi sm cf so sk so sm no*2 sk ll po*2 sk no lo pf",
  "no*3 po lu*23 sm lu*7 ll*24 sm ll*8 lu/ll*27 lu ll*2 lu/ll*7 lu ll*2 lu/ll*23 lu*2 ll lu ll lu",
  "ll*3 lu*2 ll lu ll lu*2 ll lu*3 ll*2 lu*4 ll lu*2 ll lu*3 ll*3 lu*2 ll lu*2 ll lu/ll*2 lu*2 ll",
  "lu ll*2 lu ll lu*2 ll lu*3 ll lu ll lu*2 ll*2 lo lu ll*3 lo*4 lu lt ll lu lt ll lu lt ll",
  "lu/ll*7 lu ll*2 lu/ll*8 lu ll*2 lu lt ll lu ll lu*3 ll lu/ll*28 lu ll*7 lu*2 ll lu*2 ll*2 lu ll",
  "lu*4 ll lu/ll*3 lu ll*69 lo ll*27 lm*18 sk*4 lm*12 sk*14 lm*5 sk*7 lm sk lm sk*17 mn*112",
  "lu/ll*2 lm sk lu ll cn*2 lm ll*3 po lu cn*4 sk*2 lu po lu*3 cn lu cn lu*2 ll lu*17 cn lu*9",
  "ll*35 lu ll*2 lu*3 ll*3 lu/ll*11 lu ll*5 lu ll sm lu ll lu*2 ll*2 lu*51 ll*48 lu/ll*17 so mn*5",
  "me*2 lu/ll*27 lu*2 ll lu/ll*5 lu ll*2 lu/ll*48 cn lu*38 cn*2 lm po*6 ll*41 po pd cn*2 so*2 sc",
  "cn mn*45 pd mn po mn*2 po mn*2 po mn cn*8 lo*27 cn*4 lo*4 po*2 cn*11 cf*6 sm*3 po*2 sc po*2",
  "so*2 mn*11 po cf po*3 lo*32 lm lo*10 mn*21 nd*10 po*4 lo*2 mn lo*99 po lo mn*7 cf so mn*6 lm*2",
  "mn*2 so mn*4 lo*2 nd*10 lo*3 so*2 lo po*14 cn cf lo mn lo*30 mn*27 cn*2 lo*89 mn*11 lo cn*14",
  "nd*10 lo*33 mn*9 lm*2 so po*3 lm cn*2 mn sc*2 lo*22 mn*4 lm mn*9 lm mn*3 lm mn*5 cn*2 po*15 cn",
  "lo*25 mn*3 cn*2 po cn lo*11 cn*5 lo*24 sk lo*6 cn cf*2 cn*5 mn*9 lo*41 lm mn*24 cf mn*32 mc",
  "lo*54 mn mc mn lo mc*3 mn*8 mc*4 mn mc*2 lo mn*7 lo*10 mn*2 po*2 nd*10 po lm lo*15 mn mc*2 cn",
  "lo*8 cn*2 lo*2 cn*2 lo*22 cn lo*7 cn lo cn*3 lo*4 cn*2 mn lo mc*3 mn*4 cn*2 mc*2 cn*2 mc*2 mn",
  "lo cn*8 mc cn*4 lo*2 cn lo*3 mn*2 cn*2 nd*10 lo*2 sc*2 no*6 so sc lo po mn cn*2 mn*2 mc cn lo*6",
  "cn*4 lo*2 cn*2 lo*22 cn lo*7 cn lo*2 cn lo*2 cn lo*2 cn*2 mn cn mc*3 mn*2 cn*4 mn*2 cn*2 mn*3",
  "cn*3 mn cn*7 lo*4 cn lo cn*7 nd*10 mn*2 lo*3 mn po cn*10 mn*2 mc cn lo*9 cn lo*3 cn lo*22 cn",
  "lo*7 cn lo*2 cn lo*5 cn*2 mn lo mc*3 mn*5 cn mn*2 mc cn mc*2 mn cn*2 lo cn*15 lo*2 mn*2 cn*2",
  "nd*10 po sc cn*7 lo mn*6 cn mn mc*2 cn lo*8 cn*2 lo*2 cn*2 lo*22 cn lo*7 cn lo*2 cn lo*5 cn*2",
  "mn lo mc mn mc mn*4 cn*2 mc*2 cn*2 mc*2 mn cn*7 mn*2 mc cn*4 lo*2 cn lo*3 mn*2 cn*2 nd*10 so lo",
  "no*6 cn*10 mn lo cn lo*6 cn*3 lo*3 cn lo*4 cn*3 lo*2 cn lo cn lo*2 cn*3 lo*2 cn*3 lo*3 cn*3",
  "lo*12 cn*4 mc*2 mn mc*2 cn*3 mc*3 cn mc*3 mn cn*2 lo cn*6 mc cn*14 nd*10 no*3 so*6 sc so cn*5",
  "mn mc*3 mn lo*8 cn lo*3 cn lo*23 cn lo*16 cn*2 mn lo mn*3 mc*4 cn mn*3 cn mn*4 cn*7 mn*2 cn",
  "lo*3 cn*2 lo cn*2 lo*2 mn*2 cn*2 nd*10 cn*7 po no*7 so lo mn mc*2 po lo*8 cn lo*3 cn lo*23 cn",
  "lo*10 cn lo*5 cn*2 mn lo mc mn mc*5 cn mn mc*2 cn mc*2 mn*2 cn*7 mc*2 cn*6 lo*2 cn lo*2 mn*2",
  "cn*2 nd*10 cn lo*2 mc cn*12 mn*2 mc*2 lo*9 cn lo*3 cn lo*41 mn*2 lo mc*3 mn*4 cn mc*3 cn mc*3",
  "mn lo so cn*4 lo*3 mc no*7 lo*3 mn*2 cn*2 nd*10 no*9 so lo*6 cn mn mc*2 cn lo*18 cn*3 lo*24 cn",
  "lo*9 cn lo cn*2 lo*7 cn*3 mn cn*4 mc*3 mn*3 cn mn cn mc*8 cn*6 nd*10 cn*2 mc*2 po cn*12 lo*48",
  "mn lo*2 mn*7 cn*4 sc lo*6 lm mn*8 po nd*10 po*2 cn*37 lo*2 cn lo cn lo*5 cn lo*24 cn lo cn",
  "lo*10 mn lo*2 mn*9 lo cn*2 lo*5 cn lm cn mn*7 cn nd*10 cn*2 lo*4 cn*32 lo so*3 po*15 so po so*3",
  "mn*2 so*6 nd*10 no*10 so mn so mn so mn ps pe ps pe mc*2 lo*8 cn lo*36 cn*4 mn*14 mc mn*5 po",
  "mn*2 lo*5 mn*11 cn mn*36 cn so*8 mn so*6 cn so*2 po*5 so*4 po*2 cn*37 lo*43 mc*2 mn*4 mc mn*6",
  "mc mn*2 mc*2 mn*2 lo nd*10 po*6 lo*6 mc*2 mn*2 lo*4 mn*3 lo mc*3 lo*2 mc*7 lo*3 mn*4 lo*13 mn",
  "mc*2 mn*2 mc*6 mn lo mc nd*10 mc*3 mn so*2 lu*38 cn lu cn*5 lu cn*2 ll*43 po lm ll*3 lo*329 cn",
  "lo*4 cn*2 lo*7 cn lo cn lo*4 cn*2 lo*41 cn lo*4 cn*2 lo*33 cn lo*4 cn*2 lo*7 cn lo cn lo*4 cn*2",
  "lo*15 cn lo*57 cn lo*4 cn*2 lo*67 cn*2 mn*3 po*9 no*20 cn*3 lo*16 so*10 cn*6 lu*86 cn*2 ll*6",
  "cn*2 pd lo*620 so po lo*17 zs lo*26 ps pe cn*3 lo*75 po*3 nl*3 lo*8 cn*7 lo*18 mn*3 mc cn*9",
  "lo*19 mn*2 mc po*2 cn*9 lo*18 mn*2 cn*12 lo*13 cn lo*3 cn mn*2 cn*12 lo*52 mn*2 mc mn*7 mc*8 mn",
  "mc*2 mn*11 po*3 lm po*3 sc lo mn cn*2 nd*10 cn*6 no*10 cn*6 po*6 pd po*4 mn*3 cf mn nd*10 cn*6",
  "lo*35 lm lo*53 cn*7 lo*5 mn*2 lo*34 mn lo cn*5 lo*70 cn*10 lo*31 cn mn*3 mc*4 mn*2 mc*3 cn*4",
  "mc*2 mn mc*6 mn*3 cn*4 so cn*3 po*2 nd*10 lo*30 cn*2 lo*5 cn*11 lo*44 cn*4 lo*26 cn*6 nd*10 no",
  "cn*3 so*34 lo*23 mn*2 mc*2 mn cn*2 po*2 lo*53 mc mn mc mn*7 cn mn mc mn mc*2 mn*8 mc*6 mn*10",
  "cn*2 mn nd*10 cn*6 nd*10 cn*6 po*7 lm po*6 cn*2 mn*14 me mn*16 cn*49 mn*4 mc lo*47 mn mc mn*5",
  "mc mn mc*5 mn mc*2 lo*8 cn po*2 nd*10 po*7 so*10 mn*9 so*9 po*3 mn*2 mc lo*30 mc mn*4 mc*2 mn*2",
  "mc mn*3 lo*2 nd*10 lo*44 mn mc mn*2 mc*3 mn mc mn*3 mc*2 cn*8 po*4 lo*36 mc*8 mn*8 mc*2 mn*2",
  "cn*3 po*5 nd*10 cn*3 lo*3 nd*10 lo*30 lm*6 po*2 ll*9 lu ll cn*5 lu*43 cn*2 lu*3 po*8 cn*8 mn*3",
  "po mn*13 mc mn*7 lo*4 mn lo*6 mn lo*2 mc mn*2 lo cn*5 ll*44 lm*63 ll*13 lm ll*34 lm*37 mn*64",
  "lu/ll*74 lu ll*9 lu/ll*48 lu ll*9 lu*8 ll*6 cn*2 lu*6 cn*2 ll*8 lu*8 ll*8 lu*8 ll*6 cn*2 lu*6",
  "cn*2 ll*8 cn lu cn lu cn lu cn lu ll*8 lu*8 ll*14 cn*2 ll*8 lt*8 ll*8 lt*8 ll*8 lt*8 ll*5 cn",
  "ll*2 lu*4 lt sk ll sk*3 ll*3 cn ll*2 lu*4 lt sk*3 ll*4 cn*2 ll*2 lu*4 cn sk*3 ll*8 lu*5 sk*3",
  "cn*2 ll*3 cn ll*2 lu*4 lt sk*2 cn zs*11 cf*5 pd*6 po*2 pi pf ps pi*2 pf ps pi po*8 zl zp cf*5",
  "zs po*9 pi pf po*4 pc*2 po*3 sm ps pe po*11 sm po pc po*10 zs cf*5 cn cf*10 no lm cn*2 no*6",
  "sm*3 ps pe lm no*10 sm*3 ps pe cn lm*13 cn*3 sc*33 cn*15 mn*13 me*4 mn me*3 mn*12 cn*15 so*2 lu",
  "so*4 lu so*2 ll lu*3 ll*2 lu*3 ll so lu so*2 sm lu*5 so*6 lu so lu so lu so lu*4 so ll lu*4 ll",
  "lo*4 ll so*2 ll*2 lu*2 sm*5 lu ll*4 so sm so*2 ll so no*16 nl*35 lu ll nl*4 no so*2 cn*4 sm*5",
  "so*5 sm*2 so*4 sm so*2 sm so*2 sm so*7 sm so*31 sm*2 so*2 sm so sm so*31 sm*268 so*8 ps pe ps",
  "pe so*20 sm*2 so*7 ps pe so*81 sm so*30 sm*25 so*40 sm*6 so*72 cn*22 so*11 cn*21 no*60 so*78",
  "no*22 so*183 sm so*9 sm so*54 sm*8 so*111 sm so*248 ps pe ps pe ps pe ps pe ps pe ps pe ps pe",
  "no*30 so*44 sm*5 ps pe sm*31 ps pe ps pe ps pe ps pe ps pe sm*16 so*256 sm*131 ps pe ps pe ps",
  "pe ps pe ps pe ps pe ps pe ps pe ps pe ps pe ps pe sm*63 ps pe ps pe sm*32 ps pe sm*258 so*48",
  "sm*21 so*2 sm*6 so*39 cn*2 so*32 cn so*105 lu*48 ll*48 lu ll lu*3 ll*2 lu/ll*3 lu*4 ll lu ll*2",
  "lu ll*6 lm*2 lu*3 ll lu/ll*48 lu ll*2 so*6 lu/ll*2 mn*3 lu ll cn*5 po*4 no po*2 ll*38 cn ll",
  "cn*5 ll cn*2 lo*56 cn*7 lm po cn*14 mn lo*23 cn*9 lo*7 cn lo*7 cn lo*7 cn lo*7 cn lo*7 cn lo*7",
  "cn lo*7 cn lo*7 cn mn*32 po*2 pi pf pi pf po*3 pi pf po pi pf po*9 pd po*2 pd po pi pf po*2 pi",
  "pf ps pe ps pe ps pe ps pe po*5 lm po*10 pd*2 po*4 pd po ps po*13 so*2 po*3 ps pe ps pe ps pe",
  "ps pe pd cn*34 so*26 cn so*89 cn*12 so*214 cn*26 so*16 zs po*3 so lm lo nl ps pe ps pe ps pe ps",
  "pe ps pe so*2 ps pe ps pe ps pe ps pe pd ps pe*2 so nl*9 mn*4 mc*2 pd lm*5 so*2 nl*3 lm lo po",
  "so*2 cn lo*86 cn*2 mn*2 sk*2 lm*2 lo pd lo*90 po lm*3 lo cn*5 lo*43 cn lo*94 cn so*2 no*4 so*10",
  "lo*32 so*38 cn*9 so lo*16 so*31 cn no*10 so*30 no*8 so no*15 so*32 no*10 so*39 no*15 so*320",
  "lo*6592 so*64 lo*21013 lm lo*1143 cn*3 so*55 cn*9 lo*40 lm*6 po*2 lo*268 lm po*3 lo*16 nd*10",
  "lo*2 cn*20 lu/ll*23 lo mn me*3 po mn*10 po lm lu/ll*14 lm*2 mn*2 lo*70 nl*10 mn*2 po*6 cn*8",
  "sk*23 lm*9 sk*2 lu/ll*6 lu ll*3 lu/ll*31 lm ll*8 lu/ll*2 lu*2 ll lu/ll*4 lm sk*2 lu/ll*2 lo lu",
  "ll lu ll*3 lu/ll*10 lu*5 ll lu*5 ll lu/ll*7 lu*4 ll lu ll lu*2 ll cn*2 lu ll cn ll cn ll",
  "lu/ll*3 lu cn*21 lm*3 lu ll lo lm*2 ll lo*7 mn lo*3 mn lo*4 mn lo*23 mc*2 mn*2 mc so*4 mn cn*3",
  "no*6 so*2 sc so cn*6 lo*52 po*4 cn*8 mc*2 lo*50 mc*16 mn*2 cn*8 po*2 nd*10 cn*6 mn*18 lo*6 po*3",
  "lo po lo*2 mn nd*10 lo*28 mn*8 po*2 lo*23 mn*11 mc*2 cn*11 po lo*29 cn*3 mn*3 mc lo*47 mn mc*2",
  "mn*4 mc*2 mn*2 mc*3 po*13 cn lm nd*10 cn*4 po*2 lo*5 mn lm lo*9 nd*10 lo*5 cn lo*41 mn*6 mc*2",
  "mn*2 mc*2 mn*2 cn*9 lo*3 mn lo*8 mn mc cn*2 nd*10 cn*2 po*4 lo*16 lm lo*6 so*3 lo mc mn mc",
  "lo*50 mn lo mn*3 lo*2 mn*2 lo*5 mn*2 lo mn lo cn*24 lo*2 lm po*2 lo*11 mc mn*2 mc*2 po*2 lo",
  "lm*2 mc mn cn*10 lo*6 cn*2 lo*6 cn*2 lo*6 cn*9 lo*7 cn lo*7 cn ll*43 sk lm*4 ll*9 lm sk*2 cn*4",
  "ll*80 lo*35 mc*2 mn mc*2 mn mc*2 po mc mn cn*2 nd*10 cn*6 lo*11172 cn*12 lo*23 cn*4 lo*49 cn*4",
  "cs*2048 co*6400 lo*366 cn*2 lo*106 cn*38 ll*7 cn*12 ll*5 cn*5 lo mn lo*10 sm lo*13 cn lo*5 cn",
  "lo cn lo*2 cn lo*2 cn lo*108 sk*17 cn*16 lo*363 pe ps so*16 lo*64 cn*2 lo*54 cn*7 so cn*32",
  "lo*12 sc so*3 mn*16 po*7 ps pe po cn*6 mn*16 po pd*2 pc*2 ps pe ps pe ps pe ps pe ps pe ps pe",
  "ps pe ps pe po*2 ps pe po*4 pc*3 po*3 cn po*4 pd ps pe ps pe ps pe po*3 sm pd sm*3 cn po sc",
  "po*2 cn*4 lo*5 cn lo*135 cn*2 cf cn po*3 sc po*3 ps pe po sm po pd po*2 nd*10 po*2 sm*3 po*2",
  "lu*26 ps po pe sk pc sk ll*26 ps sm pe sm ps pe po ps pe po*2 lo*10 lm lo*45 lm*2 lo*31 cn*3",
  "lo*6 cn*2 lo*6 cn*2 lo*6 cn*2 lo*3 cn*3 sc*2 sm sk so sc*2 cn so sm*4 so*2 cn*10 cf*3 so*2 cn*2",
  "lo*12 cn lo*26 cn lo*19 cn lo*2 cn lo*15 cn*2 lo*14 cn*34 lo*123 cn*5 po*3 cn*4 no*45 cn*3 so*9",
  "nl*53 no*4 so*17 no*2 so*3 cn so*13 cn*3 so cn*47 so*45 mn cn*130 lo*29 cn*3 lo*49 cn*15 mn",
  "no*27 cn*4 lo*32 no*4 cn*9 lo*20 nl lo*8 nl cn*5 lo*38 mn*5 cn*5 lo*30 cn po lo*36 cn*4 lo*8 po",
  "nl*5 cn*42 lu*40 ll*40 lo*78 cn*2 nd*10 cn*6 lu*36 cn*4 ll*36 cn*4 lo*40 cn*8 lo*52 cn*11 po",
  "lu*11 cn lu*15 cn lu*7 cn lu*2 cn ll*11 cn ll*15 cn ll*7 cn ll*2 cn*3 lo*52 cn*12 lo*311 cn*9",
  "lo*22 cn*10 lo*8 cn*24 lm*6 cn lm*42 cn lm*9 cn*69 lo*6 cn*2 lo cn lo*44 cn lo*2 cn*3 lo cn*2",
  "lo*23 cn po no*8 lo*23 so*2 no*7 lo*31 cn*8 no*9 cn*48 lo*19 cn lo*2 cn*5 no*5 lo*22 no*6 cn*3",
  "po lo*26 cn*5 po cn*64 lo*56 cn*4 no*2 lo*2 no*16 cn*2 no*46 lo mn*3 cn mn*2 cn*5 mn*4 lo*4 cn",
  "lo*3 cn lo*29 cn*2 mn*3 cn*4 mn no*9 cn*7 po*9 cn*7 lo*29 no*2 po lo*29 no*3 cn*32 lo*8 so",
  "lo*28 mn*2 cn*4 no*5 po*7 cn*9 lo*54 cn*3 po*7 lo*22 cn*2 no*8 lo*19 cn*5 no*8 lo*18 cn*7 po*4",
  "cn*12 no*7 cn*80 lo*73 cn*55 lu*51 cn*13 ll*51 cn*7 no*6 lo*36 mn*4 cn*8 nd*10 cn*6 nd*10 lo*4",
  "lm lo lu*22 cn*3 mn*5 pd lm ll*22 cn*8 sm*2 cn*208 no*31 cn lo*42 cn mn*2 pd cn*2 lo*2 cn*16",
  "lo*3 cn*55 mn*4 lo*29 no*10 lo cn*8 lo*22 mn*11 no*4 po*5 cn*22 lo*18 mn*4 po*4 cn*38 lo*21",
  "no*7 cn*20 lo*23 cn*9 mc mn mc lo*53 mn*15 po*7 cn*4 no*20 nd*10 mn lo*2 mn*2 lo cn*9 mn*3 mc",
  "lo*45 mc*3 mn*4 mc*2 mn*2 po*2 cf po*4 mn cn*10 cf cn*2 lo*25 cn*7 nd*10 cn*6 mn*3 lo*36 mn*5",
  "mc mn*8 cn nd*10 po*4 lo mc*2 lo cn*8 lo*35 mn po*2 lo cn*9 mn*2 mc lo*48 mc*3 mn*9 mc*2 lo*4",
  "po*4 mn*4 po mc mn nd*10 lo po lo po*3 cn no*20 cn*11 lo*18 cn lo*25 mc*3 mn*3 mc*2 mn mc mn*2",
  "po*6 mn lo*2 mn cn*62 lo*7 cn lo cn lo*4 cn lo*15 cn lo*10 po cn*6 lo*47 mn mc*3 mn*8 cn*5",
  "nd*10 cn*6 mn*2 mc*2 cn lo*8 cn*2 lo*2 cn*2 lo*22 cn lo*7 cn lo*2 cn lo*5 cn mn*2 lo mc*2 mn",
  "mc*4 cn*2 mc*2 cn*2 mc*3 cn*2 lo cn*6 mc cn*5 lo*5 mc*2 cn*2 mn*7 cn*3 mn*5 cn*11 lo*10 cn lo",
  "cn*2 lo cn lo*38 cn lo mc*3 mn*6 cn mc cn*2 mc cn mc*4 cn mc*2 mn mc mn lo mn lo po*2 cn po*2",
  "cn*8 mn*2 cn*29 lo*53 mc*3 mn*8 mc*2 mn*3 mc mn lo*4 po*5 nd*10 po*2 cn po mn lo*3 cn*30 lo*48",
  "mc*3 mn*6 mc mn mc*4 mn*2 mc mn*2 lo*2 po lo cn*8 nd*10 cn*166 lo*47 mc*3 mn*4 cn*2 mc*4 mn*2",
  "mc mn*2 po*23 lo*4 mn*2 cn*34 lo*48 mc*3 mn*8 mc*2 mn mc mn*2 po*3 lo cn*11 nd*10 cn*6 po*13",
  "cn*19 lo*43 mn mc mn mc*2 mn*6 mc mn lo po cn*6 nd*10 cn*6 nd*20 cn*28 lo*27 cn*2 mn mc mn mc*2",
  "mn*4 mc mn*5 cn*4 nd*10 no*2 po*3 so lo*7 cn*185 lo*44 mc*3 mn*9 mc mn*2 po cn*100 lu*32 ll*32",
  "nd*10 no*9 cn*12 lo*8 cn*2 lo cn*2 lo*8 cn lo*2 cn lo*24 mc*6 cn mc*2 cn*2 mn*2 mc mn lo mc lo",
  "mc mn po*3 cn*9 nd*10 cn*70 lo*8 cn*2 lo*39 mc*3 mn*4 cn*2 mn*2 mc*4 mn lo po lo mc cn*27 lo",
  "mn*10 lo*40 mn*6 mc lo mn*4 po*8 mn cn*8 lo mn*6 mc*2 mn*3 lo*46 mn*13 mc mn*2 po*3 lo po*5",
  "cn*13 lo*73 cn*7 po*10 cn*182 lo*33 po cn*14 nd*10 cn*6 lo*9 cn lo*37 mc mn*7 cn mn*6 mc mn lo",
  "po*5 cn*10 nd*10 no*19 cn*3 po*2 lo*30 cn*2 mn*22 cn mc mn*7 mc mn*2 mc mn*2 cn*73 lo*7 cn lo*2",
  "cn lo*38 mn*6 cn*3 mn cn mn*2 cn mn*7 lo mn cn*8 nd*10 cn*6 lo*6 cn lo*2 cn lo*32 mc*5 cn mn*2",
  "cn mc*2 mn mc mn lo cn*7 nd*10 cn*310 lo*19 mn*2 mc*2 po*2 cn*7 mn*2 lo mc lo*13 cn lo*34 mc*2",
  "mn*5 cn*3 mc*2 mn mc mn po*13 nd*10 mn cn*85 lo cn*15 no*21 so*8 sc*4 so*17 cn*13 po lo*922",
  "cn*102 nl*111 cn po*5 cn*11 lo*196 cn*2636 lo*97 po*2 cn*13 lo*1072 cf*16 mn lo*6 mn*15 cn*10",
  "lo*3995 cn*5 lo*583 cn*6841 lo*30 mn*12 mc*3 mn*3 nd*10 cn*1734 lo*569 cn*7 lo*31 cn nd*10 cn*4",
  "po*2 lo*79 cn nd*10 cn*6 lo*30 cn*2 mn*5 po cn*10 lo*48 mn*7 po*5 so*4 lm*4 po so cn*10 nd*10",
  "cn no*7 cn lo*21 cn*5 lo*19 cn*432 lm*3 lo*40 lm*2 po*3 nd*10 cn*198 lu*32 ll*32 no*23 po*4",
  "cn*101 lo*75 cn*4 mn lo mc*55 cn*7 mn*4 lm*13 cn*64 lm*2 po lm mn cn*11 mc*2 cn*14 lo*6136 cn*8",
  "lo*1238 cn*41 lo*10 cn*8935 lm*4 cn lm*7 cn lm*2 cn lo*291 cn*15 lo cn*29 lo*3 cn*2 lo cn*14",
  "lo*4 cn*8 lo*396 cn*2308 lo*107 cn*5 lo*13 cn*3 lo*9 cn*7 lo*10 cn*2 so mn*2 po cf*4 cn*3932",
  "so*240 nd*10 cn*6 so*436 cn*76 mn*46 cn*2 mn*23 cn*9 so*116 cn*60 so*246 cn*10 so*39 cn*2 so*60",
  "mc*2 mn*3 so*3 mc*6 cf*8 mn*8 so*2 mn*7 so*30 mn*4 so*61 cn*21 so*66 mn*3 so cn*122 no*20 cn*12",
  "no*20 cn*12 so*87 cn*9 no*25 cn*135 lu*26 ll*26 lu*26 ll*7 cn ll*18 lu*26 ll*26 lu cn lu*2 cn*2",
  "lu cn*2 lu*2 cn*2 lu*4 cn lu*8 ll*4 cn ll cn ll*7 cn ll*11 lu*26 ll*26 lu*2 cn lu*4 cn*2 lu*8",
  "cn lu*7 cn ll*26 lu*2 cn lu*4 cn lu*5 cn lu cn*3 lu*7 cn ll*26 lu*26 ll*26 lu*26 ll*26 lu*26",
  "ll*26 lu*26 ll*26 lu*26 ll*26 lu*26 ll*28 cn*2 lu*25 sm ll*25 sm ll*6 lu*25 sm ll*25 sm ll*6",
  "lu*25 sm ll*25 sm ll*6 lu*25 sm ll*25 sm ll*6 lu*25 sm ll*25 sm ll*6 lu ll cn*2 nd*50 so*512",
  "mn*55 so*4 mn*50 so*8 mn so*14 mn so*2 po*5 cn*15 mn*5 cn mn*15 cn*1104 ll*10 lo ll*20 cn*6",
  "ll*6 cn*213 mn*7 cn mn*17 cn*2 mn*7 cn mn*2 cn mn*5 cn*5 lm*62 cn*33 mn cn*112 lo*45 cn*3 mn*7",
  "lm*7 cn*2 nd*10 cn*4 lo so cn*320 lo*30 mn cn*17 lo*44 mn*4 nd*10 cn*5 sc cn*464 lo*27 lm mn*4",
  "nd*10 cn*214 lo*30 mn*2 lo nd*10 cn*4 po cn*480 lo*7 cn lo*4 cn lo*2 cn lo*15 cn lo*197 cn*2",
  "no*9 mn*7 cn*41 lu*34 ll*34 mn*7 lm cn*4 nd*10 cn*4 po*2 cn*785 no*59 so no*3 sc no*4 cn*76",
  "no*45 so no*15 cn*194 lo*4 cn lo*27 cn lo*2 cn lo cn*2 lo cn lo*10 cn lo*4 cn lo cn lo cn*6 lo",
  "cn*4 lo cn lo cn lo cn lo*3 cn lo*2 cn lo cn*2 lo cn lo cn lo cn lo cn lo cn lo*2 cn lo cn*2",
  "lo*4 cn lo*7 cn lo*4 cn lo*4 cn lo cn lo*10 cn lo*17 cn*5 lo*3 cn lo*5 cn lo*17 cn*52 sm*2",
  "cn*270 so*44 cn*4 so*100 cn*12 so*15 cn*2 so*15 cn so*15 cn so*37 cn*10 no*13 so*161 cn*56",
  "so*29 cn*13 so*44 cn*4 so*9 cn*7 so*2 cn*14 so*6 cn*154 so*251 sk*5 so*728 cn*4 so*17 cn*3",
  "so*13 cn*3 so*119 cn*4 so*95 cn*6 so*12 cn*4 so cn*15 so*12 cn*4 so*56 cn*8 so*10 cn*6 so*40",
  "cn*8 so*30 cn*2 so*12 cn*4 so*2 cn*62 so*340 cn*12 so*14 cn*2 so*13 cn*3 so*10 cn*5 so*56 cn*7",
  "so*15 cn*2 so*11 cn*6 so*9 cn*7 so*147 cn so*92 nd*10 cn*1030 lo*42720 cn*32 lo*4154 cn*6",
  "lo*222 cn*2 lo*5762 cn*14 lo*7473 cn*15 lo*622 cn*2466 lo*542 cn*1506 lo*4939 cn*5 lo*4192",
  "cn*711761 cf cn*30 cf*96 cn*128 mn*240 cn*65040 co*65534 cn*2 co*65534 cn*2"]

/-- The categories of all code points. -/
def categoryRuns : Text.Runs := .ofLines categoryLines

/-- The characters of the categories with these codes. -/
def ofCategories (codes : List String) : Text.Ranges :=
  categoryRuns.select fun code => codes.contains (String.ofList code)

/-- The loose names of the categories and of their groups, with the codes of the categories. -/
def generalCategories : List (List String × List String) := [
  (["c", "other"], ["cc", "cf", "cn", "co"]), (["cc", "control", "cntrl"], ["cc"]),
  (["cf", "format"], ["cf"]), (["cn", "unassigned"], ["cn"]), (["co", "privateuse"], ["co"]),
  (["l", "letter"], ["lu", "ll", "lt", "lm", "lo"]), (["lc", "casedletter"], ["lu", "ll", "lt"]),
  (["ll", "lowercaseletter"], ["ll"]), (["lm", "modifierletter"], ["lm"]),
  (["lo", "otherletter"], ["lo"]), (["lt", "titlecaseletter"], ["lt"]),
  (["lu", "uppercaseletter"], ["lu"]), (["m", "mark", "combiningmark"], ["mn", "mc", "me"]),
  (["mc", "spacingmark"], ["mc"]), (["me", "enclosingmark"], ["me"]),
  (["mn", "nonspacingmark"], ["mn"]), (["n", "number"], ["nd", "nl", "no"]),
  (["nd", "decimalnumber", "digit"], ["nd"]), (["nl", "letternumber"], ["nl"]),
  (["no", "othernumber"], ["no"]),
  (["p", "punctuation", "punct"], ["pc", "pd", "ps", "pe", "pi", "pf", "po"]),
  (["pc", "connectorpunctuation"], ["pc"]), (["pd", "dashpunctuation"], ["pd"]),
  (["pe", "closepunctuation"], ["pe"]), (["pf", "finalpunctuation"], ["pf"]),
  (["pi", "initialpunctuation"], ["pi"]), (["po", "otherpunctuation"], ["po"]),
  (["ps", "openpunctuation"], ["ps"]), (["s", "symbol"], ["sm", "sc", "sk", "so"]),
  (["sc", "currencysymbol"], ["sc"]), (["sk", "modifiersymbol"], ["sk"]),
  (["sm", "mathsymbol"], ["sm"]), (["so", "othersymbol"], ["so"]),
  (["z", "separator"], ["zs", "zl", "zp"]), (["zl", "lineseparator"], ["zl"]),
  (["zp", "paragraphseparator"], ["zp"]), (["zs", "spaceseparator"], ["zs"])]

/-- The characters of a category, or of one of the three groups that are none of the standard. -/
def category? : String → Option Text.Ranges
  | "any" => some (Text.Ranges.complement [])
  | "assigned" => some (ofCategories ["cn"]).complement
  | "ascii" => some [(0x00, 0x7F)]
  | name => (generalCategories.find? (·.1.contains name)).map fun entry => ofCategories entry.2

end Extractor.Regex.Unicode
