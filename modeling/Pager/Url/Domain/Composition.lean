import Pager.Url.Domain.Marks

namespace Pager.Url.Domain

/-- The usable characters that two others make up. -/
def composites : List Text.Substitution := Text.substitutions "
e0=61.300,61.301,61.302,61.303,61.308,61.30a
e7=63.327,65.300,65.301,65.302,65.308,69.300,69.301,69.302,69.308
f1=6e.303,6f.300,6f.301,6f.302,6f.303,6f.308 f9=75.300,75.301,75.302,75.308,79.301 ff=79.308
101=61.304 103=61.306 105=61.328 107=63.301 109=63.302 10b=63.307 10d=63.30c 10f=64.30c 113=65.304
115=65.306 117=65.307 119=65.328 11b=65.30c 11d=67.302 11f=67.306 121=67.307 123=67.327 125=68.302
129=69.303 12b=69.304 12d=69.306 12f=69.328 135=6a.302 137=6b.327 13a=6c.301 13c=6c.327 13e=6c.30c
144=6e.301 146=6e.327 148=6e.30c 14d=6f.304 14f=6f.306 151=6f.30b 155=72.301 157=72.327 159=72.30c
15b=73.301 15d=73.302 15f=73.327 161=73.30c 163=74.327 165=74.30c 169=75.303 16b=75.304 16d=75.306
16f=75.30a 171=75.30b 173=75.328 175=77.302 177=79.302 17a=7a.301 17c=7a.307 17e=7a.30c 1a1=6f.31b
1b0=75.31b 1ce=61.30c 1d0=69.30c 1d2=6f.30c 1d4=75.30c 1d6=fc.304 1d8=fc.301 1da=fc.30c 1dc=fc.300
1df=e4.304 1e1=227.304 1e3=e6.304 1e7=67.30c 1e9=6b.30c 1eb=6f.328 1ed=1eb.304 1ef=292.30c,6a.30c
1f5=67.301 1f9=6e.300 1fb=e5.301 1fd=e6.301 1ff=f8.301 201=61.30f 203=61.311 205=65.30f 207=65.311
209=69.30f 20b=69.311 20d=6f.30f 20f=6f.311 211=72.30f 213=72.311 215=75.30f 217=75.311 219=73.326
21b=74.326 21f=68.30c 227=61.307 229=65.327 22b=f6.304 22d=f5.304 22f=6f.307 231=22f.304
233=79.304 390=3ca.301 3ac=3b1.301,3b5.301,3b7.301,3b9.301,3cb.301
3ca=3b9.308,3c5.308,3bf.301,3c5.301,3c9.301 439=438.306 450=435.300,435.308 453=433.301
457=456.308 45c=43a.301,438.300,443.306 477=475.30f 4c2=436.306 4d1=430.306 4d3=430.308
4d7=435.306 4db=4d9.308 4dd=436.308 4df=437.308 4e3=438.304 4e5=438.308 4e7=43e.308 4eb=4e9.308
4ed=44d.308 4ef=443.304 4f1=443.308 4f3=443.30b 4f5=447.308 4f9=44b.308
622=627.653,627.654,648.654,627.655,64a.654 6c0=6d5.654 6c2=6c1.654 6d3=6d2.654 929=928.93c
931=930.93c 934=933.93c 9cb=9c7.9be,9c7.9d7 b48=b47.b56 b4b=b47.b3e,b47.b57 b94=b92.bd7
bca=bc6.bbe,bc7.bbe,bc6.bd7 c48=c46.c56 cc0=cbf.cd5 cc7=cc6.cd5,cc6.cd6 cca=cc6.cc2,cca.cd5
d4a=d46.d3e,d47.d3e,d46.d57 dda=dd9.dca ddc=dd9.dcf,ddc.dca,dd9.ddf 1026=1025.102e 1b06=1b05.1b35
1b08=1b07.1b35 1b0a=1b09.1b35 1b0c=1b0b.1b35 1b0e=1b0d.1b35 1b12=1b11.1b35 1b3b=1b3a.1b35
1b3d=1b3c.1b35 1b40=1b3e.1b35,1b3f.1b35 1b43=1b42.1b35 1e01=61.325 1e03=62.307 1e05=62.323
1e07=62.331 1e09=e7.301 1e0b=64.307 1e0d=64.323 1e0f=64.331 1e11=64.327 1e13=64.32d 1e15=113.300
1e17=113.301 1e19=65.32d 1e1b=65.330 1e1d=229.306 1e1f=66.307 1e21=67.304 1e23=68.307 1e25=68.323
1e27=68.308 1e29=68.327 1e2b=68.32e 1e2d=69.330 1e2f=ef.301 1e31=6b.301 1e33=6b.323 1e35=6b.331
1e37=6c.323 1e39=1e37.304 1e3b=6c.331 1e3d=6c.32d 1e3f=6d.301 1e41=6d.307 1e43=6d.323 1e45=6e.307
1e47=6e.323 1e49=6e.331 1e4b=6e.32d 1e4d=f5.301 1e4f=f5.308 1e51=14d.300 1e53=14d.301 1e55=70.301
1e57=70.307 1e59=72.307 1e5b=72.323 1e5d=1e5b.304 1e5f=72.331 1e61=73.307 1e63=73.323 1e65=15b.307
1e67=161.307 1e69=1e63.307 1e6b=74.307 1e6d=74.323 1e6f=74.331 1e71=74.32d 1e73=75.324 1e75=75.330
1e77=75.32d 1e79=169.301 1e7b=16b.308 1e7d=76.303 1e7f=76.323 1e81=77.300 1e83=77.301 1e85=77.308
1e87=77.307 1e89=77.323 1e8b=78.307 1e8d=78.308 1e8f=79.307 1e91=7a.302 1e93=7a.323
1e95=7a.331,68.331,74.308,77.30a,79.30a 1ea1=61.323 1ea3=61.309 1ea5=e2.301 1ea7=e2.300
1ea9=e2.309 1eab=e2.303 1ead=1ea1.302 1eaf=103.301 1eb1=103.300 1eb3=103.309 1eb5=103.303
1eb7=1ea1.306 1eb9=65.323 1ebb=65.309 1ebd=65.303 1ebf=ea.301 1ec1=ea.300 1ec3=ea.309 1ec5=ea.303
1ec7=1eb9.302 1ec9=69.309 1ecb=69.323 1ecd=6f.323 1ecf=6f.309 1ed1=f4.301 1ed3=f4.300 1ed5=f4.309
1ed7=f4.303 1ed9=1ecd.302 1edb=1a1.301 1edd=1a1.300 1edf=1a1.309 1ee1=1a1.303 1ee3=1a1.323
1ee5=75.323 1ee7=75.309 1ee9=1b0.301 1eeb=1b0.300 1eed=1b0.309 1eef=1b0.303 1ef1=1b0.323
1ef3=79.300 1ef5=79.323 1ef7=79.309 1ef9=79.303
1f00=3b1.313,3b1.314,1f00.300,1f01.300,1f00.301,1f01.301,1f00.342,1f01.342
1f10=3b5.313,3b5.314,1f10.300,1f11.300,1f10.301,1f11.301
1f20=3b7.313,3b7.314,1f20.300,1f21.300,1f20.301,1f21.301,1f20.342,1f21.342
1f30=3b9.313,3b9.314,1f30.300,1f31.300,1f30.301,1f31.301,1f30.342,1f31.342
1f40=3bf.313,3bf.314,1f40.300,1f41.300,1f40.301,1f41.301
1f50=3c5.313,3c5.314,1f50.300,1f51.300,1f50.301,1f51.301,1f50.342,1f51.342
1f60=3c9.313,3c9.314,1f60.300,1f61.300,1f60.301,1f61.301,1f60.342,1f61.342 1f70=3b1.300
1f72=3b5.300 1f74=3b7.300 1f76=3b9.300 1f78=3bf.300 1f7a=3c5.300 1f7c=3c9.300 1fb0=3b1.306,3b1.304
1fb6=3b1.342 1fc6=3b7.342 1fd0=3b9.306,3b9.304,3ca.300 1fd6=3b9.342,3ca.342
1fe0=3c5.306,3c5.304,3cb.300 1fe4=3c1.313,3c1.314,3c5.342,3cb.342 1ff6=3c9.342
219a=2190.338,2192.338 21ae=2194.338 21cd=21d0.338,21d4.338,21d2.338 2204=2203.338 2209=2208.338
220c=220b.338 2224=2223.338 2226=2225.338 2241=223c.338 2244=2243.338 2247=2245.338 2249=2248.338
2260=3d.338 2262=2261.338 226d=224d.338,3c.338,3e.338,2264.338,2265.338 2274=2272.338,2273.338
2278=2276.338,2277.338 2280=227a.338,227b.338 2284=2282.338,2283.338 2288=2286.338,2287.338
22ac=22a2.338,22a8.338,22a9.338,22ab.338 22e0=227c.338,227d.338,2291.338,2292.338
22ea=22b2.338,22b3.338,22b4.338,22b5.338 304c=304b.3099 304e=304d.3099 3050=304f.3099
3052=3051.3099 3054=3053.3099 3056=3055.3099 3058=3057.3099 305a=3059.3099 305c=305b.3099
305e=305d.3099 3060=305f.3099 3062=3061.3099 3065=3064.3099 3067=3066.3099 3069=3068.3099
3070=306f.3099,306f.309a 3073=3072.3099,3072.309a 3076=3075.3099,3075.309a
3079=3078.3099,3078.309a 307c=307b.3099,307b.309a 3094=3046.3099 309e=309d.3099 30ac=30ab.3099
30ae=30ad.3099 30b0=30af.3099 30b2=30b1.3099 30b4=30b3.3099 30b6=30b5.3099 30b8=30b7.3099
30ba=30b9.3099 30bc=30bb.3099 30be=30bd.3099 30c0=30bf.3099 30c2=30c1.3099 30c5=30c4.3099
30c7=30c6.3099 30c9=30c8.3099 30d0=30cf.3099,30cf.309a 30d3=30d2.3099,30d2.309a
30d6=30d5.3099,30d5.309a 30d9=30d8.3099,30d8.309a 30dc=30db.3099,30db.309a 30f4=30a6.3099
30f7=30ef.3099,30f0.3099,30f1.3099,30f2.3099 30fe=30fd.3099 105c9=105d2.307 105e4=105da.307
1109a=11099.110ba 1109c=1109b.110ba 110ab=110a5.110ba 1112e=11131.11127,11132.11127
1134b=11347.1133e,11347.11357 11383=11382.113c9 11385=11384.113bb 1138e=1138b.113c2
11391=11390.113c9 113c5=113c2.113c2 113c7=113c2.113b8,113c2.113c9 114bb=114b9.114ba,114b9.114b0
114be=114b9.114bd 115ba=115b8.115af,115b9.115af 11938=11935.11930
16121=1611e.1611e,1611e.16129,1611e.1611f,16129.1611f,1611e.16120,16121.1611f,16122.1611f
16128=16121.16120 16d68=16d67.16d67,16d63.16d67,16d69.16d67"

def compositePairs : List (Char × List Char) :=
  composites.flatMap Text.Substitution.pairs

def leadBase : Nat := 0x1100
def vowelBase : Nat := 0x1161
/-- One less than the code of the first trailing consonant. -/
def trailBase : Nat := 0x11a7
def syllableBase : Nat := 0xac00
def leadCount : Nat := 19
def vowelCount : Nat := 21
def trailCount : Nat := 28

/-- The place of a code among `count` ones from `base` on. -/
def offset? (base count : Nat) (c : Char) : Option Nat :=
  if base ≤ c.toNat && c.toNat < base + count then some (c.toNat - base) else none

def syllableOffset? : Char → Option Nat :=
  offset? syllableBase (leadCount * vowelCount * trailCount)

/-- The parts of a Hangul syllable: a leading consonant, a vowel, and a trailing consonant or none.
-/
def syllableParts (n : Nat) : List Char :=
  let trail := n % trailCount
  let vowel := n / trailCount % vowelCount
  let lead := n / trailCount / vowelCount
  let front := [Char.ofNat (leadBase + lead), Char.ofNat (vowelBase + vowel)]
  if trail = 0 then front else front ++ [Char.ofNat (trailBase + trail)]

/-- The syllable of two parts, the first of which may be a syllable without a trailing consonant. -/
def syllable? (a b : Char) : Option Char :=
  match offset? leadBase leadCount a, offset? vowelBase vowelCount b with
  | some lead, some vowel =>
    some (Char.ofNat (syllableBase + (lead * vowelCount + vowel) * trailCount))
  | _, _ =>
    match syllableOffset? a, offset? trailBase trailCount b with
    | some front, some trail =>
      if front % trailCount = 0 && trail ≠ 0 then some (Char.ofNat (a.toNat + trail)) else none
    | _, _ => none

/-- The parts of a character, and the parts of its first part, so many levels deep. -/
def partsOf : Nat → Char → List Char
  | 0, c => [c]
  | depth + 1, c =>
    match syllableOffset? c, Text.imageIn? composites c with
    | some n, _ => syllableParts n
    | none, some (first :: rest) => partsOf depth first ++ rest
    | none, _ => [c]

/-- The text with every character taken apart. No character goes deeper than three levels. -/
def decomposed (s : List Char) : List Char :=
  orderMarks (s.flatMap (partsOf 3))

/-- The character that two make up. -/
def composite? (a b : Char) : Option Char :=
  match syllable? a b with
  | some c => some c
  | none => (compositePairs.find? fun (_, parts) => parts == [a, b]).map Prod.fst

/-- Puts together a text that goes on behind `base` and the marks that stay apart from it, which are
given from their end. A mark of the same place keeps a character from the base. -/
def composeAfter (base : Char) (apart : List Char) : List Char → List Char
  | [] => base :: apart.reverse
  | c :: rest =>
    let reaches := match apart with
      | [] => true
      | mark :: _ => combiningClass mark < combiningClass c
    match if reaches then composite? base c else none with
    | some made => composeAfter made apart rest
    | none =>
      if combiningClass c = 0 then base :: apart.reverse ++ composeAfter c [] rest
      else composeAfter base (c :: apart) rest

/-- The text with every character put together that can be; marks in front of all others stay, and
so does a text in ASCII. -/
def composed (s : List Char) : List Char :=
  if s.all Text.isAscii then s
  else
    let parts := decomposed s
    let front := parts.takeWhile (combiningClass · ≠ 0)
    match parts.drop front.length with
    | [] => front
    | base :: rest => front ++ composeAfter base [] rest

end Pager.Url.Domain
