import Extractor.Text.Runs

/-!
# Extractor.Regex.Unicode.Age

The versions of the standard in which characters were added. Who asks for a version
is given the characters of the earlier ones as well.
-/

namespace Extractor.Regex.Unicode

/-- The versions of all code points, by the letters of `versions`. -/
def versionLines : List String := [
  "a*502 d*4 a*30 d*8 f g d*18 g*3 h*11 i*14 a*89 d*5 g*2 a*47 d a*10 d*5 g*17 a*70 d*9 f g*8 h*5",
  "g*3 a*2 d f*13 j*4 a*2 j*2 -*2 a i*3 a p -*4 a*7 - a - a*20 - a*44 j a*7 d f*2 a d a d a d a d",
  "a*18 e*2 f g*5 h*4 d a*12 d a*66 d a*12 d a*41 j d*2 f*2 d*4 a*53 f*2 a*2 f*2 a*2 f*2 i a*28",
  "d*2 a*8 h*2 a*2 i*6 f*16 i*4 j*16 k*2 l*2 p*8 - a*38 -*2 a*7 t a*39 t a d -*2 p*2 m - b*17 h",
  "b*13 a*10 i a*9 b h*3 -*8 a*27 -*4 t a*5 -*11 g*4 m p j*5 h a g*9 j*5 a o x h a l a*26 j*5 a*19",
  "d*3 g*3 h*6 l a*14 f*2 a*72 d*2 a*5 d a*15 d a*30 g*2 a*10 d*5 g d*14 - d*30 g*3 d*27 -*2 g*3",
  "h*30 j*18 d*49 f -*14 i*59 -*2 t*3 k*46 -*2 k*15 - l*28 -*2 l - s*11 -*5 x*31 - x*2 -*5 A x*8 m",
  "p m*11 p*6 q*2 x r*8 w*10 x*11 t r*15 q m*27 p k a*3 g a*53 l*2 a*18 k l a*5 k l*2 a*25 j*2 l*5",
  "p k*2 i*2 h i*2 p a*3 - a*8 -*2 a*2 -*2 a*22 - a*7 - a -*3 a*4 -*2 a g a*7 -*2 a*2 -*2 a*3 h",
  "-*8 a -*4 a*2 - a*5 -*2 a*21 k s*2 t -*2 g a g - a*6 -*4 a*2 -*2 a*22 - a*7 - a*2 - a*2 - a*2",
  "-*2 a - a*5 -*4 a*2 -*2 a*3 -*3 j -*7 a*4 - a -*7 a*15 j t -*10 a*3 - a*7 g a - a*3 - a*22 -",
  "a*7 - a*2 - a*5 -*2 a*10 - a*3 - a*3 -*2 a -*15 a g*3 -*2 a*10 m g -*7 q s*6 - a*3 - a*8 -*2",
  "a*2 -*2 a*22 - a*7 - a*2 - g a*4 -*2 a*8 j -*2 a*2 -*2 a*3 -*7 w a*2 -*4 a*2 - a*3 j*2 -*2 a*11",
  "g l*6 -*10 a*2 - a*6 -*3 a*3 - a*4 -*3 a*2 - a - a*2 -*3 a*2 -*3 a*3 -*3 a*8 h a*3 -*4 a*5 -*3",
  "a*3 - a*4 -*2 j -*6 a -*14 h a*12 g*8 -*5 p a*3 t a*8 - a*3 - a*23 - a*10 p a*5 -*2 x j a*7 -",
  "a*3 - a*4 -*7 a*2 - j*2 q -*2 x -*2 a*2 j*2 -*2 a*10 -*7 u j*8 r p a*2 t a*8 - a*3 - a*23 -",
  "a*10 - a*5 -*2 g*2 a*7 - a*3 - a*4 -*7 a*2 -*6 x a - a*2 i*2 -*2 a*10 - i*2 y -*12 s p a*2 w",
  "a*8 - a*3 - a*23 l a*16 l s*2 j a*6 j - a*3 - a*4 l r -*4 r*3 a r*7 q a*2 j*2 -*2 a*10 j*6 r*3",
  "j*7 - w d*2 - d*18 -*3 d*24 - d*9 - d -*2 d*7 -*3 d -*4 d*6 - d - d*8 -*6 p*10 -*2 d*3 -*12",
  "a*58 -*4 a*29 -*37 a*2 - a - u a*2 u a - u a u*6 a*4 u a*7 u a*3 - a - a u*2 a*2 u a*13 u a*3",
  "-*2 a*5 - a - a*6 y - a*10 -*2 a*2 m*2 -*32 b*72 - b*33 d j*2 -*4 b*27 l*4 b*6 d b - b*21 d*3",
  "b*7 d b d*3 - d*15 - j d h*2 j*3 k*4 l*2 -*37 d*34 j d*5 j d*2 j d*7 j*3 d*4 j*6 d*26 j*64 k*4",
  "j*2 a*38 - m -*5 m -*2 a*39 f*2 h*2 a h m*3 a*90 k*5 a*68 k*5 a*82 k*6 d*7 h d*63 h d - d*4 -*2",
  "d*7 - d - d*4 -*2 d*39 h d - d*4 -*2 d*31 h d - d*4 -*2 d*7 - d - d*4 -*2 d*7 h d*7 - d*23 h",
  "d*31 h d - d*4 -*2 d*7 h d*39 h d*19 -*2 l*2 h*2 d*28 -*3 h*26 -*6 d*85 q -*2 q*6 -*2 k d*630",
  "k*9 d*29 -*3 d*81 p*8 -*7 f*13 x f*7 x -*9 x f*23 -*9 f*20 -*12 f*13 - f*3 - f*2 -*12 d*93 g",
  "-*2 d*10 -*6 g*10 -*6 d*15 x d*10 -*6 d*88 t -*7 d*42 j -*5 k*70 -*10 g*29 p*2 - g*12 -*4 g*12",
  "-*4 g -*3 g*42 -*2 g*5 -*11 h*42 k*2 -*4 h*26 -*6 h*10 k -*3 h*2 g*32 h*28 -*2 h*2 k*63 - k*29",
  "-*2 k*11 -*6 k*10 -*6 k*14 -*2 p*15 w*2 x*14 -*49 i*76 x - A*2 i*45 x*2 A j*43 m*3 j*12 m*6",
  "l*52 -*8 l*4 j*56 -*3 j*15 -*3 j*51 r*9 A*2 -*5 t*43 -*2 t*3 m*8 -*8 k*35 m*4 s p*2 u -*5 g*108",
  "h*88 i*7 j*28 p*15 s*4 x r l k i*2 a*155 b j*4 a*90 j*6 a*22 -*2 a*6 -*2 a*38 -*2 a*6 -*2 a*8 -",
  "a - a - a - a*31 -*2 a*53 - a*15 - a*14 -*2 a*6 - a*19 -*2 a*3 - a*9 - a*47 d a*23 f d*6 f*5",
  "g*2 h*2 f h*7 f*5 j - o*4 a*7 f -*2 a*27 - h*5 l*8 -*3 a*11 b c d*3 f*2 h*4 k*3 l n p*3 q s x",
  "-*15 a*18 d*2 f*7 h i*4 j -*15 a*57 d*2 g h f*15 h i*2 j k*3 a*48 d i j*4 k q*2 -*4 a*91 d*9",
  "f*12 a*242 f*14 a d a*121 d f d*30 f*52 g*2 h*11 i*12 k l*11 p*7 r*4 s a*37 d*2 A*3 -*22 a*11",
  "-*21 a*139 f*20 g a*150 f*10 a*80 d*8 f*8 a*20 g*2 f*2 h d a*86 d*2 f*12 h*2 f*10 g*8 h*11 j",
  "k*2 g*2 h*16 i j*10 k*3 j*4 k*10 l k*19 l k l*4 k*24 p a*4 l a*4 l*2 a*28 l a*35 l a l a*4 l*3",
  "a k a*7 l*2 a*7 f*14 a*31 l*3 a*24 l a*14 l h*7 i*4 m j m l*2 f*28 j*4 f*16 d*256 f*512 g*14",
  "h*6 i*7 j*5 i*4 j*41 p*3 j*5 k*5 p*26 -*2 p*32 - w p*34 t*3 p*12 u p*8 s t*25 q*4 t*15 u h*47 x",
  "h*47 x i*13 j*3 k j*3 i*4 j*6 k*2 h*107 k*7 m*2 -*5 h*45 - m -*5 m -*2 h*54 m*2 -*7 h l -*14 l",
  "h*23 -*9 h*7 - h*7 - h*7 - h*7 - h*7 - h*7 - h*7 - h*7 - j*32 h*24 j*4 h*2 j*19 k m*10 p*7 r*2",
  "s*5 t*5 u w*3 x*11 -*34 d*26 - d*89 -*12 d*214 -*26 d*12 z*4 a*56 d*3 f*3 d a - a*84 f*2 -*2",
  "a*6 f*2 a*94 f -*5 a*40 j s t - a*94 - a*16 d*24 l*3 w*5 h*16 j*20 A*2 -*9 z f*16 a*29 g*2 -",
  "a*36 k*12 g f*15 a*28 g*2 h a*50 f*15 a*12 g*4 a*47 v a*119 g*4 a*99 g*2 a*31 g d*6582 w*10",
  "g*64 a*20902 h*22 j*8 k*8 m q*9 s*21 t*5 w*13 x*3 d*1165 -*3 d*18 f*2 d*16 f d*12 f d*3 f d -*9",
  "k*48 j*300 -*20 j*32 l*2 j*18 m*8 j*28 p*6 q m k*88 -*8 h*23 i*4 j*5 i*2 j*107 l*2 q l*2 m*2",
  "p*12 l*10 m p*3 r t p*2 q*6 t*2 u*6 x*2 u*5 w*4 A*3 -*2 x*2 - x - x*5 A*3 -*21 x*3 w*2 p m*2 l",
  "j*5 h*44 w -*3 k*10 -*6 i*56 -*8 j*69 r -*8 j*12 -*6 k*28 q*2 t*2 j*84 -*11 j k*29 -*3 k*78 -",
  "k*11 -*4 k*2 p*31 - j*55 -*9 j*14 -*2 j*10 -*2 j*4 k*28 p*4 k*67 -*24 k*5 m*23 -*10 l*6 -*2 l*6",
  "-*2 l*6 -*9 l*7 - l*7 - p*48 q*4 p*2 u*2 w*4 -*4 q*80 k*46 -*2 k*10 -*6 b*11172 -*12 k*23 -*4",
  "k*49 -*4 b*2048 a*6702 m*2 f*59 k*3 -*2 h*106 -*38 a*7 -*12 a*5 -*5 d a*25 - a*5 - a - a*2 -",
  "a*2 - a*108 l*16 x -*16 a*365 x*16 a*64 -*2 a*54 -*7 x e*32 a*12 f g x*2 f*16 h*10 -*6 a*4 j*3",
  "p*7 q*2 a*21 f*2 g*2 a*10 - a*19 - a*4 -*4 a*3 f a - a*135 -*2 a - a*94 f*2 a*94 -*3 a*6 -*2",
  "a*6 -*2 a*6 -*2 a*3 -*3 a*7 - a*7 -*10 d*3 c a*3 g*12 - g*26 - g*19 - g*2 - g*15 -*2 g*14 -*34",
  "g*123 -*5 g*3 -*4 g*45 -*3 g*9 h*75 p*2 r*2 - j*12 w -*3 p -*47 j*46 -*130 j*29 -*3 j*49 -*15",
  "p*28 -*4 e*31 p e*4 -*9 s*3 e*27 -*5 p*43 -*5 g*30 - g h*36 -*4 h*14 -*42 e*38 g*2 e*38 g*80",
  "-*2 g*10 -*6 r*36 -*4 r*36 -*4 p*40 -*8 p*52 -*11 p x*11 - x*15 - x*7 - x*2 - x*11 - x*15 - x*7",
  "- x*2 -*3 A*52 -*12 p*311 -*9 p*22 -*10 p*8 -*24 x*6 - x*42 - x*9 -*69 g*6 -*2 g - g*44 - g*2",
  "-*3 g -*2 g k*22 - k*9 p*63 -*8 p*9 -*48 q*19 - q*2 -*5 q*5 i*26 k*2 -*3 i j*26 -*5 j -*64 m*56",
  "-*4 q*2 m*2 q*16 -*2 q*46 h*4 - h*2 -*5 h*8 - h*3 - h*27 t*2 -*2 h*3 -*4 h*9 t -*7 h*9 -*7 k*32",
  "p*32 -*32 p*39 -*4 p*12 -*9 k*54 -*3 k*29 -*2 k*27 -*5 k*8 p*18 -*7 p*4 -*12 p*7 -*80 k*73 -*55",
  "q*51 -*13 q*51 -*7 q*6 t*40 -*8 t*10 -*6 A*38 -*3 A*29 -*8 A*2 -*208 k*31 - w*42 - w*3 -*2 w*2",
  "-*16 A*3 -*55 A y*3 t*40 -*8 t*42 -*22 x*26 -*38 w*28 -*20 u*23 -*9 l*78 -*4 l*30 x*6 -*9 p",
  "k*66 x -*10 t -*2 m*25 -*7 m*10 -*6 m*53 - m*14 t*3 w -*8 p*39 -*9 m*73 q*4 p w*2 m*10 p q*5 -",
  "p*20 -*11 p*18 - p*43 r y*3 -*62 q*7 - q - q*4 - q*15 - q*11 -*6 p*59 -*5 p*10 -*6 q p*3 - p*8",
  "-*2 p*2 -*2 p*22 - p*7 - p*2 - p*5 - t p*9 -*2 p*2 -*2 p*3 -*2 q -*6 p -*5 p*7 -*2 p*7 -*3 p*5",
  "-*11 A*10 - A -*2 A - A*38 - A*10 - A -*2 A - A*4 - A*10 - A*2 -*8 A*2 -*29 r*90 w r - r t u",
  "w*2 -*30 p*72 -*8 p*10 -*166 p*54 -*2 p*18 q*20 -*34 p*69 -*11 p*10 -*6 r*13 -*19 m*56 u x -*6",
  "m*10 -*6 A*20 -*28 q*26 t -*2 q*15 -*4 q*16 x*7 -*185 t*60 -*100 p*83 -*12 p w*7 -*2 w -*2 w*8",
  "- w*2 - w*30 - w*2 -*2 w*12 -*9 w*10 -*70 u*8 -*2 u*46 -*2 u*11 -*27 s*72 -*8 s*52 u*2 s*23 t",
  "s*5 -*13 x*16 p*57 -*7 y*10 -*182 A*34 -*14 A*10 -*6 r*9 - r*45 - r*14 -*10 r*29 -*3 r*32 -*2",
  "r*22 - r*14 -*73 s*7 - s*2 - s*44 -*3 s - s*2 - s*9 -*8 s*10 -*6 t*6 - t*2 - t*37 - t*2 - t*6",
  "-*7 t*10 -*310 t*25 -*7 y*17 - y*41 -*3 y*28 A -*85 w -*15 u*50 -*13 u i*879 p*42 q -*102 i*99",
  "p*12 - i*4 p -*11 q*196 -*2636 x*99 -*13 k*1071 y u*9 y*29 -*10 A*3995 -*5 q*583 -*6841 A*58",
  "-*1734 l*569 -*7 p*31 - p*10 -*4 p*2 x*79 - x*10 -*6 p*30 -*2 p*6 -*10 p*70 -*10 p*10 - p*7 -",
  "p*21 -*5 p*19 -*432 A*58 -*198 t*91 -*101 m*69 u*6 -*4 u m*47 u*9 -*7 m*17 -*64 r s u*2 w -*11",
  "w*2 -*14 r*6125 t*5 u*6 -*8 r*755 w*483 -*41 A w*9 -*8935 x*4 - x*7 - x*2 - l*2 s*285 x*4 -*15",
  "y -*29 u*3 -*2 y -*14 u*4 -*8 s*396 -*2308 p*107 -*5 p*13 -*3 p*9 -*7 p*10 -*2 p*8 -*3932 A*250",
  "-*6 A*436 -*76 x*46 -*2 x*23 -*9 x*116 -*60 e*246 -*10 e*39 -*2 j e*180 q*11 x*2 -*21 h*70",
  "-*122 y*20 -*12 t*20 -*12 g*87 -*9 i*18 t*7 -*135 e*85 - e*71 - e*2 -*2 e -*2 e*2 -*2 e*4 -",
  "e*12 - e - e*4 g e*2 - e*65 - e*4 -*2 e*8 - e*7 - e*28 - e*4 - e*5 - e -*3 e*7 - e*338 h*2 -*2",
  "e*290 i*2 -*2 e*50 q*652 -*15 q*5 - q*15 -*1104 x*31 -*6 y*6 -*213 r*7 - r*17 -*2 r*7 - r*2 -",
  "r*5 -*5 y*62 -*33 y -*112 u*45 -*3 u*14 -*2 u*10 -*4 u*2 -*320 x*31 -*17 u*58 -*5 u -*464 y*42",
  "-*214 A*43 -*4 A -*480 x*7 - x*4 - x*2 - x*15 - p*197 -*2 p*16 -*41 r*75 u -*4 r*10 -*4 r*2",
  "-*785 t*68 -*76 u*61 -*194 m*4 - m*27 - m*2 - m -*2 m - m*10 - m*4 - m - m -*6 m -*4 m - m - m",
  "- m*3 - m*2 - m -*2 m - m - m - m - m - m*2 - m -*2 m*4 - m*7 - m*4 - m*4 - m - m*10 - m*17 -*5",
  "m*3 - m*5 - m*17 -*52 m*2 -*270 j*44 -*4 j*100 -*12 l*15 -*2 l*14 p - l*15 - l*15 p*22 -*10",
  "k*11 p*2 w*3 k*31 t l k l*11 k l k l*2 k l*3 k l*3 k*5 l*8 k l*7 k l*10 m*2 u w*3 l*9 k l k*2",
  "l*2 k l*10 k*4 l*2 k l*10 r*18 w -*56 l*26 k l*2 -*13 k*34 l*9 r -*4 k*9 -*7 l*2 -*14 s*6 -*154",
  "l*33 p*12 q*3 l*6 p l*70 p q*2 l*20 p*12 l*37 p l*5 p*4 q*5 p*12 l*17 p*7 q*8 l*63 p l p l*182",
  "p l*4 p*2 q l*62 p*2 m*4 p*7 q*5 l*24 p*18 r p*41 r p*86 l*5 m l*16 m l*3 m l m l m l m l*3 m",
  "l*6 m*2 l*4 m l m*2 l*4 m l*12 p*2 q*2 l*11 p*48 l*70 p*10 q r*2 s*2 u w*2 -*4 y x*3 p*13 -*3",
  "p*4 r*3 s*2 t u w*2 -*3 l*116 y*3 -*4 y*5 p*85 t*4 y -*6 u*12 -*4 x -*15 p*12 -*4 p*56 -*8 p*10",
  "-*6 p*40 -*8 p*30 -*2 w*2 A*10 -*4 A*2 -*62 s*12 w u*3 q*9 r*6 s r*8 s*8 r s*2 r*12 u r*12 s",
  "t*3 r*15 s*13 t*5 u w t*4 w*2 x t u t*4 q*5 r*13 s*6 t*11 w*2 u*6 w*3 u*2 t*10 u*6 q t*2 u*8 w",
  "x u*3 s*23 t*25 u*84 -*12 t*14 -*2 u*4 w y*3 u*3 x*2 -*3 u*3 w*4 y*2 A -*5 A u*6 w*19 x*4 y*3",
  "w*7 x*4 y*3 A y w*3 x*3 A -*7 y*2 w*7 x*3 y*2 A -*2 A x*8 y A -*6 x*7 y*2 -*7 w*147 - w*55 A*37",
  "w*10 -*1028 b*2 e*42711 w*7 x*2 -*32 k*4149 x*4 y -*6 l*222 -*2 q*5762 -*14 s*7473 -*15 z*622",
  "-*2466 e*542 -*1504 b*2 w*4939 -*5 y*4192 -*56398 b*2 -*65534 b*2 -*65534 b*2 -*65534 b*2",
  "-*65534 b*2 -*65534 b*2 -*65534 b*2 -*65534 b*2 -*65534 b*2 -*65534 b*2 -*65534 b*2 - e -*30",
  "e*96 -*128 g*240 -*65038 b*131074"]

/-- The versions of all code points. -/
def versionRuns : Text.Runs := .ofLines versionLines

/-- The versions in their order: a letter and the loose names of each. -/
def versions : List (Char × List String) := [
  ('a', ["1.1", "v11"]), ('b', ["2.0", "v20"]), ('c', ["2.1", "v21"]), ('d', ["3.0", "v30"]),
  ('e', ["3.1", "v31"]), ('f', ["3.2", "v32"]), ('g', ["4.0", "v40"]), ('h', ["4.1", "v41"]),
  ('i', ["5.0", "v50"]), ('j', ["5.1", "v51"]), ('k', ["5.2", "v52"]), ('l', ["6.0", "v60"]),
  ('m', ["6.1", "v61"]), ('n', ["6.2", "v62"]), ('o', ["6.3", "v63"]), ('p', ["7.0", "v70"]),
  ('q', ["8.0", "v80"]), ('r', ["9.0", "v90"]), ('s', ["10.0", "v100"]), ('t', ["11.0", "v110"]),
  ('u', ["12.0", "v120"]), ('v', ["12.1", "v121"]), ('w', ["13.0", "v130"]),
  ('x', ["14.0", "v140"]), ('y', ["15.0", "v150"]), ('z', ["15.1", "v151"]),
  ('A', ["16.0", "v160"])]

/-- The characters that there are in a version. -/
def age? (name : String) : Option Text.Ranges :=
  (versions.findIdx? (·.2.contains name)).map fun i =>
    let letters := (versions.take (i + 1)).map Prod.fst
    versionRuns.select fun code => code.any letters.contains

end Extractor.Regex.Unicode
