/-!
# General categories of characters

Every code point has one of thirty general categories. The table gives the categories of all code
points in order, each with the length of its run; `Category.of` finds the run a character lies in.
The characters of words are, but for a few, those of certain categories (`isWord`).
-/

namespace Registrar.Text

/-- The general category of a character, by its two-letter code. -/
inductive Category where
  /-- The category of an upper-case letter. -/
  | lu
  /-- The category of a lower-case letter. -/
  | ll
  /-- The category of a title-case letter. -/
  | lt
  /-- The category of a modifier letter. -/
  | lm
  /-- The category of another letter. -/
  | lo
  /-- The category of a mark that takes no room. -/
  | mn
  /-- The category of a mark that takes room. -/
  | mc
  /-- The category of an enclosing mark. -/
  | me
  /-- The category of a decimal digit. -/
  | nd
  /-- The category of a letter number. -/
  | nl
  /-- The category of another number. -/
  | no
  /-- The category of connecting punctuation. -/
  | pc
  /-- The category of a dash. -/
  | pd
  /-- The category of opening punctuation. -/
  | ps
  /-- The category of closing punctuation. -/
  | pe
  /-- The category of an opening quote. -/
  | pi
  /-- The category of a closing quote. -/
  | pf
  /-- The category of another punctuation mark. -/
  | po
  /-- The category of a mathematical symbol. -/
  | sm
  /-- The category of a currency symbol. -/
  | sc
  /-- The category of a modifier symbol. -/
  | sk
  /-- The category of another symbol. -/
  | so
  /-- The category of a space. -/
  | zs
  /-- The category of a line separator. -/
  | zl
  /-- The category of a paragraph separator. -/
  | zp
  /-- The category of a control character. -/
  | cc
  /-- The category of a format character. -/
  | cf
  /-- The category of a surrogate. -/
  | cs
  /-- The category of a private-use character. -/
  | co
  /-- The category of not assigned. -/
  | cn
  deriving DecidableEq, Repr, Inhabited

namespace Category

/-- Every category. -/
def all : List Category :=
  [.lu, .ll, .lt, .lm, .lo, .mn, .mc, .me, .nd, .nl, .no, .pc, .pd, .ps, .pe,
   .pi, .pf, .po, .sm, .sc, .sk, .so, .zs, .zl, .zp, .cc, .cf, .cs, .co, .cn]

/-- The two-letter code of a category. -/
def code : Category → String
  | .lu => "Lu"
  | .ll => "Ll"
  | .lt => "Lt"
  | .lm => "Lm"
  | .lo => "Lo"
  | .mn => "Mn"
  | .mc => "Mc"
  | .me => "Me"
  | .nd => "Nd"
  | .nl => "Nl"
  | .no => "No"
  | .pc => "Pc"
  | .pd => "Pd"
  | .ps => "Ps"
  | .pe => "Pe"
  | .pi => "Pi"
  | .pf => "Pf"
  | .po => "Po"
  | .sm => "Sm"
  | .sc => "Sc"
  | .sk => "Sk"
  | .so => "So"
  | .zs => "Zs"
  | .zl => "Zl"
  | .zp => "Zp"
  | .cc => "Cc"
  | .cf => "Cf"
  | .cs => "Cs"
  | .co => "Co"
  | .cn => "Cn"

/-- The category with a two-letter code. -/
def ofCode? (c : Char) (d : Char) : Option Category :=
  all.find? fun k => k.code.toList == [c, d]

/-- The categories of all code points in order: a code, then the length of its run in
hexadecimal. -/
def runs : List String :=
  ["Cc20Zs1Po3Sc1Po3Ps1Pe1Po1Sm1Po1Pd1Po2NdaPo2Sm3Po2Lu1aPs1Po1Pe1Sk1Pc1Sk1Ll1aPs1Sm1Pe1Sm1Cc21",
   "Zs1Po1Sc4So1Po1Sk1So1Lo1Pi1Sm1Cf1So1Sk1So1Sm1No2Sk1Ll1Po2Sk1No1Lo1Pf1No3Po1Lu17Sm1Lu7Ll18Sm1",
   "Ll8Lu1Ll1Lu1Ll1Lu1Ll1Lu1Ll1Lu1Ll1Lu1Ll1Lu1Ll1Lu1Ll1Lu1Ll1Lu1Ll1Lu1Ll1Lu1Ll1Lu1Ll1Lu1Ll1Lu1",
   "Ll1Lu1Ll1Lu1Ll1Lu1Ll1Lu1Ll1Lu1Ll1Lu1Ll1Lu1Ll1Lu1Ll1Lu1Ll1Lu1Ll1Lu1Ll1Lu1Ll1Lu1Ll2Lu1Ll1Lu1",
   "Ll1Lu1Ll1Lu1Ll1Lu1Ll1Lu1Ll1Lu1Ll1Lu1Ll2Lu1Ll1Lu1Ll1Lu1Ll1Lu1Ll1Lu1Ll1Lu1Ll1Lu1Ll1Lu1Ll1Lu1",
   "Ll1Lu1Ll1Lu1Ll1Lu1Ll1Lu1Ll1Lu1Ll1Lu1Ll1Lu1Ll1Lu1Ll1Lu1Ll1Lu1Ll1Lu1Ll1Lu1Ll1Lu1Ll1Lu1Ll1Lu2",
   "Ll1Lu1Ll1Lu1Ll3Lu2Ll1Lu1Ll1Lu2Ll1Lu3Ll2Lu4Ll1Lu2Ll1Lu3Ll3Lu2Ll1Lu2Ll1Lu1Ll1Lu1Ll1Lu2Ll1Lu1",
   "Ll2Lu1Ll1Lu2Ll1Lu3Ll1Lu1Ll1Lu2Ll2Lo1Lu1Ll3Lo4Lu1Lt1Ll1Lu1Lt1Ll1Lu1Lt1Ll1Lu1Ll1Lu1Ll1Lu1Ll1",
   "Lu1Ll1Lu1Ll1Lu1Ll1Lu1Ll1Lu1Ll2Lu1Ll1Lu1Ll1Lu1Ll1Lu1Ll1Lu1Ll1Lu1Ll1Lu1Ll1Lu1Ll1Lu1Ll2Lu1Lt1",
   "Ll1Lu1Ll1Lu3Ll1Lu1Ll1Lu1Ll1Lu1Ll1Lu1Ll1Lu1Ll1Lu1Ll1Lu1Ll1Lu1Ll1Lu1Ll1Lu1Ll1Lu1Ll1Lu1Ll1Lu1",
   "Ll1Lu1Ll1Lu1Ll1Lu1Ll1Lu1Ll1Lu1Ll1Lu1Ll1Lu1Ll1Lu1Ll1Lu1Ll1Lu1Ll1Lu1Ll1Lu1Ll1Lu1Ll1Lu1Ll1Lu1",
   "Ll1Lu1Ll7Lu2Ll1Lu2Ll2Lu1Ll1Lu4Ll1Lu1Ll1Lu1Ll1Lu1Ll1Lu1Ll45Lo1Ll1bLm12Sk4LmcSkeLm5Sk7Lm1Sk1",
   "Lm1Sk11Mn70Lu1Ll1Lu1Ll1Lm1Sk1Lu1Ll1Cn2Lm1Ll3Po1Lu1Cn4Sk2Lu1Po1Lu3Cn1Lu1Cn1Lu2Ll1Lu11Cn1Lu9",
   "Ll23Lu1Ll2Lu3Ll3Lu1Ll1Lu1Ll1Lu1Ll1Lu1Ll1Lu1Ll1Lu1Ll1Lu1Ll1Lu1Ll1Lu1Ll1Lu1Ll1Lu1Ll1Lu1Ll5Lu1",
   "Ll1Sm1Lu1Ll1Lu2Ll2Lu33Ll30Lu1Ll1Lu1Ll1Lu1Ll1Lu1Ll1Lu1Ll1Lu1Ll1Lu1Ll1Lu1Ll1Lu1Ll1Lu1Ll1Lu1Ll1",
   "Lu1Ll1Lu1Ll1Lu1Ll1Lu1Ll1Lu1Ll1Lu1Ll1So1Mn5Me2Lu1Ll1Lu1Ll1Lu1Ll1Lu1Ll1Lu1Ll1Lu1Ll1Lu1Ll1Lu1",
   "Ll1Lu1Ll1Lu1Ll1Lu1Ll1Lu1Ll1Lu1Ll1Lu1Ll1Lu1Ll1Lu1Ll1Lu1Ll1Lu1Ll1Lu1Ll1Lu1Ll1Lu1Ll1Lu1Ll1Lu1",
   "Ll1Lu1Ll1Lu1Ll1Lu1Ll1Lu1Ll1Lu2Ll1Lu1Ll1Lu1Ll1Lu1Ll1Lu1Ll1Lu1Ll1Lu1Ll2Lu1Ll1Lu1Ll1Lu1Ll1Lu1",
   "Ll1Lu1Ll1Lu1Ll1Lu1Ll1Lu1Ll1Lu1Ll1Lu1Ll1Lu1Ll1Lu1Ll1Lu1Ll1Lu1Ll1Lu1Ll1Lu1Ll1Lu1Ll1Lu1Ll1Lu1",
   "Ll1Lu1Ll1Lu1Ll1Lu1Ll1Lu1Ll1Lu1Ll1Lu1Ll1Lu1Ll1Lu1Ll1Lu1Ll1Lu1Ll1Lu1Ll1Lu1Ll1Lu1Ll1Lu1Ll1Lu1",
   "Ll1Lu1Ll1Lu1Ll1Lu1Ll1Lu1Ll1Lu1Ll1Lu1Ll1Lu1Ll1Lu1Ll1Lu1Ll1Lu1Ll1Lu1Ll1Lu1Ll1Lu1Ll1Lu1Ll1Cn1",
   "Lu26Cn2Lm1Po6Ll29Po1Pd1Cn2So2Sc1Cn1Mn2dPd1Mn1Po1Mn2Po1Mn2Po1Mn1Cn8Lo1bCn4Lo4Po2CnbCf6Sm3Po2",
   "Sc1Po2So2MnbPo1Cf1Po3Lo20Lm1LoaMn15NdaPo4Lo2Mn1Lo63Po1Lo1Mn7Cf1So1Mn6Lm2Mn2So1Mn4Lo2NdaLo3",
   "So2Lo1PoeCn1Cf1Lo1Mn1Lo1eMn1bCn2Lo59MnbLo1CneNdaLo21Mn9Lm2So1Po3Lm1Cn2Mn1Sc2Lo16Mn4Lm1Mn9Lm1",
   "Mn3Lm1Mn5Cn2PofCn1Lo19Mn3Cn2Po1Cn1LobCn5Lo18Sk1Lo6Cn1Cf2Cn5Mn9Lo29Lm1Mn18Cf1Mn20Mc1Lo36Mn1",
   "Mc1Mn1Lo1Mc3Mn8Mc4Mn1Mc2Lo1Mn7LoaMn2Po2NdaPo1Lm1LofMn1Mc2Cn1Lo8Cn2Lo2Cn2Lo16Cn1Lo7Cn1Lo1Cn3",
   "Lo4Cn2Mn1Lo1Mc3Mn4Cn2Mc2Cn2Mc2Mn1Lo1Cn8Mc1Cn4Lo2Cn1Lo3Mn2Cn2NdaLo2Sc2No6So1Sc1Lo1Po1Mn1Cn2",
   "Mn2Mc1Cn1Lo6Cn4Lo2Cn2Lo16Cn1Lo7Cn1Lo2Cn1Lo2Cn1Lo2Cn2Mn1Cn1Mc3Mn2Cn4Mn2Cn2Mn3Cn3Mn1Cn7Lo4Cn1",
   "Lo1Cn7NdaMn2Lo3Mn1Po1CnaMn2Mc1Cn1Lo9Cn1Lo3Cn1Lo16Cn1Lo7Cn1Lo2Cn1Lo5Cn2Mn1Lo1Mc3Mn5Cn1Mn2Mc1",
   "Cn1Mc2Mn1Cn2Lo1CnfLo2Mn2Cn2NdaPo1Sc1Cn7Lo1Mn6Cn1Mn1Mc2Cn1Lo8Cn2Lo2Cn2Lo16Cn1Lo7Cn1Lo2Cn1Lo5",
   "Cn2Mn1Lo1Mc1Mn1Mc1Mn4Cn2Mc2Cn2Mc2Mn1Cn7Mn2Mc1Cn4Lo2Cn1Lo3Mn2Cn2NdaSo1Lo1No6CnaMn1Lo1Cn1Lo6",
   "Cn3Lo3Cn1Lo4Cn3Lo2Cn1Lo1Cn1Lo2Cn3Lo2Cn3Lo3Cn3LocCn4Mc2Mn1Mc2Cn3Mc3Cn1Mc3Mn1Cn2Lo1Cn6Mc1Cne",
   "NdaNo3So6Sc1So1Cn5Mn1Mc3Mn1Lo8Cn1Lo3Cn1Lo17Cn1Lo10Cn2Mn1Lo1Mn3Mc4Cn1Mn3Cn1Mn4Cn7Mn2Cn1Lo3Cn2",
   "Lo1Cn2Lo2Mn2Cn2NdaCn7Po1No7So1Lo1Mn1Mc2Po1Lo8Cn1Lo3Cn1Lo17Cn1LoaCn1Lo5Cn2Mn1Lo1Mc1Mn1Mc5Cn1",
   "Mn1Mc2Cn1Mc2Mn2Cn7Mc2Cn6Lo2Cn1Lo2Mn2Cn2NdaCn1Lo2Mc1CncMn2Mc2Lo9Cn1Lo3Cn1Lo29Mn2Lo1Mc3Mn4Cn1",
   "Mc3Cn1Mc3Mn1Lo1So1Cn4Lo3Mc1No7Lo3Mn2Cn2NdaNo9So1Lo6Cn1Mn1Mc2Cn1Lo12Cn3Lo18Cn1Lo9Cn1Lo1Cn2Lo7",
   "Cn3Mn1Cn4Mc3Mn3Cn1Mn1Cn1Mc8Cn6NdaCn2Mc2Po1CncLo30Mn1Lo2Mn7Cn4Sc1Lo6Lm1Mn8Po1NdaPo2Cn25Lo2Cn1",
   "Lo1Cn1Lo5Cn1Lo18Cn1Lo1Cn1LoaMn1Lo2Mn9Lo1Cn2Lo5Cn1Lm1Cn1Mn7Cn1NdaCn2Lo4Cn20Lo1So3PofSo1Po1So3",
   "Mn2So6NdaNoaSo1Mn1So1Mn1So1Mn1Ps1Pe1Ps1Pe1Mc2Lo8Cn1Lo24Cn4MneMc1Mn5Po1Mn2Lo5MnbCn1Mn24Cn1So8",
   "Mn1So6Cn1So2Po5So4Po2Cn25Lo2bMc2Mn4Mc1Mn6Mc1Mn2Mc2Mn2Lo1NdaPo6Lo6Mc2Mn2Lo4Mn3Lo1Mc3Lo2Mc7Lo3",
   "Mn4LodMn1Mc2Mn2Mc6Mn1Lo1Mc1NdaMc3Mn1So2Lu26Cn1Lu1Cn5Lu1Cn2Ll2bPo1Lm1Ll3Lo149Cn1Lo4Cn2Lo7Cn1",
   "Lo1Cn1Lo4Cn2Lo29Cn1Lo4Cn2Lo21Cn1Lo4Cn2Lo7Cn1Lo1Cn1Lo4Cn2LofCn1Lo39Cn1Lo4Cn2Lo43Cn2Mn3Po9No14",
   "Cn3Lo10SoaCn6Lu56Cn2Ll6Cn2Pd1Lo26cSo1Po1Lo11Zs1Lo1aPs1Pe1Cn3Lo4bPo3Nl3Lo8Cn7Lo12Mn3Mc1Cn9",
   "Lo13Mn2Mc1Po2Cn9Lo12Mn2CncLodCn1Lo3Cn1Mn2CncLo34Mn2Mc1Mn7Mc8Mn1Mc2MnbPo3Lm1Po3Sc1Lo1Mn1Cn2",
   "NdaCn6NoaCn6Po6Pd1Po4Mn3Cf1Mn1NdaCn6Lo23Lm1Lo35Cn7Lo5Mn2Lo22Mn1Lo1Cn5Lo46CnaLo1fCn1Mn3Mc4Mn2",
   "Mc3Cn4Mc2Mn1Mc6Mn3Cn4So1Cn3Po2NdaLo1eCn2Lo5CnbLo2cCn4Lo1aCn6NdaNo1Cn3So22Lo17Mn2Mc2Mn1Cn2Po2",
   "Lo35Mc1Mn1Mc1Mn7Cn1Mn1Mc1Mn1Mc2Mn8Mc6MnaCn2Mn1NdaCn6NdaCn6Po7Lm1Po6Cn2MneMe1Mn10Cn31Mn4Mc1",
   "Lo2fMn1Mc1Mn5Mc1Mn1Mc5Mn1Mc2Lo8Cn1Po2NdaPo7SoaMn9So9Po3Mn2Mc1Lo1eMc1Mn4Mc2Mn2Mc1Mn3Lo2Nda",
   "Lo2cMn1Mc1Mn2Mc3Mn1Mc1Mn3Mc2Cn8Po4Lo24Mc8Mn8Mc2Mn2Cn3Po5NdaCn3Lo3NdaLo1eLm6Po2Ll9Lu1Ll1Cn5",
   "Lu2bCn2Lu3Po8Cn8Mn3Po1MndMc1Mn7Lo4Mn1Lo6Mn1Lo2Mc1Mn2Lo1Cn5Ll2cLm3fLldLm1Ll22Lm25Mn40Lu1Ll1",
   "Lu1Ll1Lu1Ll1Lu1Ll1Lu1Ll1Lu1Ll1Lu1Ll1Lu1Ll1Lu1Ll1Lu1Ll1Lu1Ll1Lu1Ll1Lu1Ll1Lu1Ll1Lu1Ll1Lu1Ll1",
   "Lu1Ll1Lu1Ll1Lu1Ll1Lu1Ll1Lu1Ll1Lu1Ll1Lu1Ll1Lu1Ll1Lu1Ll1Lu1Ll1Lu1Ll1Lu1Ll1Lu1Ll1Lu1Ll1Lu1Ll1",
   "Lu1Ll1Lu1Ll1Lu1Ll1Lu1Ll1Lu1Ll1Lu1Ll1Lu1Ll1Lu1Ll1Lu1Ll1Lu1Ll1Lu1Ll1Lu1Ll1Lu1Ll1Lu1Ll1Lu1Ll1",
   "Lu1Ll1Lu1Ll1Lu1Ll1Lu1Ll1Lu1Ll1Lu1Ll1Lu1Ll1Lu1Ll1Lu1Ll1Lu1Ll1Lu1Ll1Lu1Ll1Lu1Ll1Lu1Ll1Lu1Ll1",
   "Lu1Ll1Lu1Ll1Lu1Ll1Lu1Ll1Lu1Ll1Lu1Ll1Lu1Ll1Lu1Ll1Lu1Ll1Lu1Ll1Lu1Ll1Lu1Ll1Lu1Ll1Lu1Ll9Lu1Ll1",
   "Lu1Ll1Lu1Ll1Lu1Ll1Lu1Ll1Lu1Ll1Lu1Ll1Lu1Ll1Lu1Ll1Lu1Ll1Lu1Ll1Lu1Ll1Lu1Ll1Lu1Ll1Lu1Ll1Lu1Ll1",
   "Lu1Ll1Lu1Ll1Lu1Ll1Lu1Ll1Lu1Ll1Lu1Ll1Lu1Ll1Lu1Ll1Lu1Ll1Lu1Ll1Lu1Ll1Lu1Ll1Lu1Ll1Lu1Ll1Lu1Ll1",
   "Lu1Ll1Lu1Ll1Lu1Ll1Lu1Ll1Lu1Ll1Lu1Ll1Lu1Ll1Lu1Ll1Lu1Ll1Lu1Ll1Lu1Ll1Lu1Ll1Lu1Ll1Lu1Ll1Lu1Ll1",
   "Lu1Ll1Lu1Ll1Lu1Ll9Lu8Ll6Cn2Lu6Cn2Ll8Lu8Ll8Lu8Ll6Cn2Lu6Cn2Ll8Cn1Lu1Cn1Lu1Cn1Lu1Cn1Lu1Ll8Lu8",
   "LleCn2Ll8Lt8Ll8Lt8Ll8Lt8Ll5Cn1Ll2Lu4Lt1Sk1Ll1Sk3Ll3Cn1Ll2Lu4Lt1Sk3Ll4Cn2Ll2Lu4Cn1Sk3Ll8Lu5",
   "Sk3Cn2Ll3Cn1Ll2Lu4Lt1Sk2Cn1ZsbCf5Pd6Po2Pi1Pf1Ps1Pi2Pf1Ps1Pi1Po8Zl1Zp1Cf5Zs1Po9Pi1Pf1Po4Pc2",
   "Po3Sm1Ps1Pe1PobSm1Po1Pc1PoaZs1Cf5Cn1CfaNo1Lm1Cn2No6Sm3Ps1Pe1Lm1NoaSm3Ps1Pe1Cn1LmdCn3Sc21Cnf",
   "MndMe4Mn1Me3MncCnfSo2Lu1So4Lu1So2Ll1Lu3Ll2Lu3Ll1So1Lu1So2Sm1Lu5So6Lu1So1Lu1So1Lu1So1Lu4So1",
   "Ll1Lu4Ll1Lo4Ll1So2Ll2Lu2Sm5Lu1Ll4So1Sm1So2Ll1So1No10Nl23Lu1Ll1Nl4No1So2Cn4Sm5So5Sm2So4Sm1So2",
   "Sm1So2Sm1So7Sm1So1fSm2So2Sm1So1Sm1So1fSm10cSo8Ps1Pe1Ps1Pe1So14Sm2So7Ps1Pe1So51Sm1So1eSm19",
   "So28Sm6So48Cn16SobCn15No3cSo4eNo16Sob7Sm1So9Sm1So36Sm8So6fSm1Sof8Ps1Pe1Ps1Pe1Ps1Pe1Ps1Pe1Ps1",
   "Pe1Ps1Pe1Ps1Pe1No1eSo2cSm5Ps1Pe1Sm1fPs1Pe1Ps1Pe1Ps1Pe1Ps1Pe1Ps1Pe1Sm10So100Sm83Ps1Pe1Ps1Pe1",
   "Ps1Pe1Ps1Pe1Ps1Pe1Ps1Pe1Ps1Pe1Ps1Pe1Ps1Pe1Ps1Pe1Ps1Pe1Sm3fPs1Pe1Ps1Pe1Sm20Ps1Pe1Sm102So30",
   "Sm15So2Sm6So27Cn2So20Cn1So69Lu30Ll30Lu1Ll1Lu3Ll2Lu1Ll1Lu1Ll1Lu1Ll1Lu4Ll1Lu1Ll2Lu1Ll6Lm2Lu3",
   "Ll1Lu1Ll1Lu1Ll1Lu1Ll1Lu1Ll1Lu1Ll1Lu1Ll1Lu1Ll1Lu1Ll1Lu1Ll1Lu1Ll1Lu1Ll1Lu1Ll1Lu1Ll1Lu1Ll1Lu1",
   "Ll1Lu1Ll1Lu1Ll1Lu1Ll1Lu1Ll1Lu1Ll1Lu1Ll1Lu1Ll1Lu1Ll1Lu1Ll1Lu1Ll1Lu1Ll1Lu1Ll1Lu1Ll1Lu1Ll1Lu1",
   "Ll1Lu1Ll1Lu1Ll1Lu1Ll1Lu1Ll1Lu1Ll1Lu1Ll1Lu1Ll1Lu1Ll1Lu1Ll1Lu1Ll1Lu1Ll1Lu1Ll1Lu1Ll1Lu1Ll1Lu1",
   "Ll1Lu1Ll1Lu1Ll1Lu1Ll1Lu1Ll2So6Lu1Ll1Lu1Ll1Mn3Lu1Ll1Cn5Po4No1Po2Ll26Cn1Ll1Cn5Ll1Cn2Lo38Cn7Lm1",
   "Po1CneMn1Lo17Cn9Lo7Cn1Lo7Cn1Lo7Cn1Lo7Cn1Lo7Cn1Lo7Cn1Lo7Cn1Lo7Cn1Mn20Po2Pi1Pf1Pi1Pf1Po3Pi1Pf1",
   "Po1Pi1Pf1Po9Pd1Po2Pd1Po1Pi1Pf1Po2Pi1Pf1Ps1Pe1Ps1Pe1Ps1Pe1Ps1Pe1Po5Lm1PoaPd2Po4Pd1Po1Ps1Pod",
   "So2Po3Ps1Pe1Ps1Pe1Ps1Pe1Ps1Pe1Pd1Cn22So1aCn1So59CncSod6Cn1aSo10Zs1Po3So1Lm1Lo1Nl1Ps1Pe1Ps1",
   "Pe1Ps1Pe1Ps1Pe1Ps1Pe1So2Ps1Pe1Ps1Pe1Ps1Pe1Ps1Pe1Pd1Ps1Pe2So1Nl9Mn4Mc2Pd1Lm5So2Nl3Lm1Lo1Po1",
   "So2Cn1Lo56Cn2Mn2Sk2Lm2Lo1Pd1Lo5aPo1Lm3Lo1Cn5Lo2bCn1Lo5eCn1So2No4SoaLo20So26Cn9So1Lo10So1fCn1",
   "NoaSo1eNo8So1NofSo20NoaSo27NofSo140Lo19c0So40Lo5215Lm1Lo477Cn3So37Cn9Lo28Lm6Po2Lo10cLm1Po3",
   "Lo10NdaLo2Cn14Lu1Ll1Lu1Ll1Lu1Ll1Lu1Ll1Lu1Ll1Lu1Ll1Lu1Ll1Lu1Ll1Lu1Ll1Lu1Ll1Lu1Ll1Lu1Ll1Lu1Ll1",
   "Lu1Ll1Lu1Ll1Lu1Ll1Lu1Ll1Lu1Ll1Lu1Ll1Lu1Ll1Lu1Ll1Lu1Ll1Lu1Ll1Lo1Mn1Me3Po1MnaPo1Lm1Lu1Ll1Lu1",
   "Ll1Lu1Ll1Lu1Ll1Lu1Ll1Lu1Ll1Lu1Ll1Lu1Ll1Lu1Ll1Lu1Ll1Lu1Ll1Lu1Ll1Lu1Ll1Lu1Ll1Lm2Mn2Lo46NlaMn2",
   "Po6Cn8Sk17Lm9Sk2Lu1Ll1Lu1Ll1Lu1Ll1Lu1Ll1Lu1Ll1Lu1Ll1Lu1Ll3Lu1Ll1Lu1Ll1Lu1Ll1Lu1Ll1Lu1Ll1Lu1",
   "Ll1Lu1Ll1Lu1Ll1Lu1Ll1Lu1Ll1Lu1Ll1Lu1Ll1Lu1Ll1Lu1Ll1Lu1Ll1Lu1Ll1Lu1Ll1Lu1Ll1Lu1Ll1Lu1Ll1Lu1",
   "Ll1Lu1Ll1Lu1Ll1Lu1Ll1Lu1Ll1Lu1Ll1Lu1Ll1Lu1Ll1Lu1Ll1Lu1Ll1Lu1Ll1Lm1Ll8Lu1Ll1Lu1Ll1Lu2Ll1Lu1",
   "Ll1Lu1Ll1Lu1Ll1Lu1Ll1Lm1Sk2Lu1Ll1Lu1Ll1Lo1Lu1Ll1Lu1Ll3Lu1Ll1Lu1Ll1Lu1Ll1Lu1Ll1Lu1Ll1Lu1Ll1",
   "Lu1Ll1Lu1Ll1Lu1Ll1Lu1Ll1Lu5Ll1Lu5Ll1Lu1Ll1Lu1Ll1Lu1Ll1Lu1Ll1Lu1Ll1Lu1Ll1Lu1Ll1Lu4Ll1Lu1Ll1",
   "Lu2Ll1Cn2Lu1Ll1Cn1Ll1Cn1Ll1Lu1Ll1Lu1Ll1Lu1Ll1Lu1Cn15Lm3Lu1Ll1Lo1Lm2Ll1Lo7Mn1Lo3Mn1Lo4Mn1Lo17",
   "Mc2Mn2Mc1So4Mn1Cn3No6So2Sc1So1Cn6Lo34Po4Cn8Mc2Lo32Mc10Mn2Cn8Po2NdaCn6Mn12Lo6Po3Lo1Po1Lo2Mn1",
   "NdaLo1cMn8Po2Lo17MnbMc2CnbPo1Lo1dCn3Mn3Mc1Lo2fMn1Mc2Mn4Mc2Mn2Mc3PodCn1Lm1NdaCn4Po2Lo5Mn1Lm1",
   "Lo9NdaLo5Cn1Lo29Mn6Mc2Mn2Mc2Mn2Cn9Lo3Mn1Lo8Mn1Mc1Cn2NdaCn2Po4Lo10Lm1Lo6So3Lo1Mc1Mn1Mc1Lo32",
   "Mn1Lo1Mn3Lo2Mn2Lo5Mn2Lo1Mn1Lo1Cn18Lo2Lm1Po2LobMc1Mn2Mc2Po2Lo1Lm2Mc1Mn1CnaLo6Cn2Lo6Cn2Lo6Cn9",
   "Lo7Cn1Lo7Cn1Ll2bSk1Lm4Ll9Lm1Sk2Cn4Ll50Lo23Mc2Mn1Mc2Mn1Mc2Po1Mc1Mn1Cn2NdaCn6Lo2ba4CncLo17Cn4",
   "Lo31Cn4Cs800Co1900Lo16eCn2Lo6aCn26Ll7CncLl5Cn5Lo1Mn1LoaSm1LodCn1Lo5Cn1Lo1Cn1Lo2Cn1Lo2Cn1Lo6c",
   "Sk11Cn10Lo16bPe1Ps1So10Lo40Cn2Lo36Cn7So1Cn20LocSc1So3Mn10Po7Ps1Pe1Po1Cn6Mn10Po1Pd2Pc2Ps1Pe1",
   "Ps1Pe1Ps1Pe1Ps1Pe1Ps1Pe1Ps1Pe1Ps1Pe1Ps1Pe1Po2Ps1Pe1Po4Pc3Po3Cn1Po4Pd1Ps1Pe1Ps1Pe1Ps1Pe1Po3",
   "Sm1Pd1Sm3Cn1Po1Sc1Po2Cn4Lo5Cn1Lo87Cn2Cf1Cn1Po3Sc1Po3Ps1Pe1Po1Sm1Po1Pd1Po2NdaPo2Sm3Po2Lu1aPs1",
   "Po1Pe1Sk1Pc1Sk1Ll1aPs1Sm1Pe1Sm1Ps1Pe1Po1Ps1Pe1Po2LoaLm1Lo2dLm2Lo1fCn3Lo6Cn2Lo6Cn2Lo6Cn2Lo3",
   "Cn3Sc2Sm1Sk1So1Sc2Cn1So1Sm4So2CnaCf3So2Cn2LocCn1Lo1aCn1Lo13Cn1Lo2Cn1LofCn2LoeCn22Lo7bCn5Po3",
   "Cn4No2dCn3So9Nl35No4So11No2So3Cn1SodCn3So1Cn2fSo2dMn1Cn82Lo1dCn3Lo31CnfMn1No1bCn4Lo20No4Cn9",
   "Lo14Nl1Lo8Nl1Cn5Lo26Mn5Cn5Lo1eCn1Po1Lo24Cn4Lo8Po1Nl5Cn2aLu28Ll28Lo4eCn2NdaCn6Lu24Cn4Ll24Cn4",
   "Lo28Cn8Lo34CnbPo1LubCn1LufCn1Lu7Cn1Lu2Cn1LlbCn1LlfCn1Ll7Cn1Ll2Cn3Lo34CncLo137Cn9Lo16CnaLo8",
   "Cn18Lm6Cn1Lm2aCn1Lm9Cn45Lo6Cn2Lo1Cn1Lo2cCn1Lo2Cn3Lo1Cn2Lo17Cn1Po1No8Lo17So2No7Lo1fCn8No9Cn30",
   "Lo13Cn1Lo2Cn5No5Lo16No6Cn3Po1Lo1aCn5Po1Cn40Lo38Cn4No2Lo2No10Cn2No2eLo1Mn3Cn1Mn2Cn5Mn4Lo4Cn1",
   "Lo3Cn1Lo1dCn2Mn3Cn4Mn1No9Cn7Po9Cn7Lo1dNo2Po1Lo1dNo3Cn20Lo8So1Lo1cMn2Cn4No5Po7Cn9Lo36Cn3Po7",
   "Lo16Cn2No8Lo13Cn5No8Lo12Cn7Po4CncNo7Cn50Lo49Cn37Lu33CndLl33Cn7No6Lo24Mn4Cn8NdaCn6NdaLo4Lm1",
   "Lo1Lu16Cn3Mn5Pd1Lm1Ll16Cn8Sm2Cnd0No1fCn1Lo2aCn1Mn2Pd1Cn2Lo2Cn10Lo3Cn37Mn4Lo1dNoaLo1Cn8Lo16",
   "MnbNo4Po5Cn16Lo12Mn4Po4Cn26Lo15No7Cn14Lo17Cn9Mc1Mn1Mc1Lo35MnfPo7Cn4No14NdaMn1Lo2Mn2Lo1Cn9Mn3",
   "Mc1Lo2dMc3Mn4Mc2Mn2Po2Cf1Po4Mn1CnaCf1Cn2Lo19Cn7NdaCn6Mn3Lo24Mn5Mc1Mn8Cn1NdaPo4Lo1Mc2Lo1Cn8",
   "Lo23Mn1Po2Lo1Cn9Mn2Mc1Lo30Mc3Mn9Mc2Lo4Po4Mn4Po1Mc1Mn1NdaLo1Po1Lo1Po3Cn1No14CnbLo12Cn1Lo19Mc3",
   "Mn3Mc2Mn1Mc1Mn2Po6Mn1Lo2Mn1Cn3eLo7Cn1Lo1Cn1Lo4Cn1LofCn1LoaPo1Cn6Lo2fMn1Mc3Mn8Cn5NdaCn6Mn2Mc2",
   "Cn1Lo8Cn2Lo2Cn2Lo16Cn1Lo7Cn1Lo2Cn1Lo5Cn1Mn2Lo1Mc2Mn1Mc4Cn2Mc2Cn2Mc3Cn2Lo1Cn6Mc1Cn5Lo5Mc2Cn2",
   "Mn7Cn3Mn5CnbLoaCn1Lo1Cn2Lo1Cn1Lo26Cn1Lo1Mc3Mn6Cn1Mc1Cn2Mc1Cn1Mc4Cn1Mc2Mn1Mc1Mn1Lo1Mn1Lo1Po2",
   "Cn1Po2Cn8Mn2Cn1dLo35Mc3Mn8Mc2Mn3Mc1Mn1Lo4Po5NdaPo2Cn1Po1Mn1Lo3Cn1eLo30Mc3Mn6Mc1Mn1Mc4Mn2Mc1",
   "Mn2Lo2Po1Lo1Cn8NdaCna6Lo2fMc3Mn4Cn2Mc4Mn2Mc1Mn2Po17Lo4Mn2Cn22Lo30Mc3Mn8Mc2Mn1Mc1Mn2Po3Lo1Cnb",
   "NdaCn6PodCn13Lo2bMn1Mc1Mn1Mc2Mn6Mc1Mn1Lo1Po1Cn6NdaCn6Nd14Cn1cLo1bCn2Mn1Mc1Mn1Mc2Mn4Mc1Mn5Cn4",
   "NdaNo2Po3So1Lo7Cnb9Lo2cMc3Mn9Mc1Mn2Po1Cn64Lu20Ll20NdaNo9CncLo8Cn2Lo1Cn2Lo8Cn1Lo2Cn1Lo18Mc6",
   "Cn1Mc2Cn2Mn2Mc1Mn1Lo1Mc1Lo1Mc1Mn1Po3Cn9NdaCn46Lo8Cn2Lo27Mc3Mn4Cn2Mn2Mc4Mn1Lo1Po1Lo1Mc1Cn1b",
   "Lo1MnaLo28Mn6Mc1Lo1Mn4Po8Mn1Cn8Lo1Mn6Mc2Mn3Lo2eMndMc1Mn2Po3Lo1Po5CndLo49Cn7PoaCnb6Lo21Po1Cne",
   "NdaCn6Lo9Cn1Lo25Mc1Mn7Cn1Mn6Mc1Mn1Lo1Po5CnaNdaNo13Cn3Po2Lo1eCn2Mn16Cn1Mc1Mn7Mc1Mn2Mc1Mn2Cn49",
   "Lo7Cn1Lo2Cn1Lo26Mn6Cn3Mn1Cn1Mn2Cn1Mn7Lo1Mn1Cn8NdaCn6Lo6Cn1Lo2Cn1Lo20Mc5Cn1Mn2Cn1Mc2Mn1Mc1Mn1",
   "Lo1Cn7NdaCn136Lo13Mn2Mc2Po2Cn7Mn2Lo1Mc1LodCn1Lo22Mc2Mn5Cn3Mc2Mn1Mc1Mn1PodNdaMn1Cn55Lo1Cnf",
   "No15So8Sc4So11CndPo1Lo39aCn66Nl6fCn1Po5CnbLoc4Cna4cLo61Po2CndLo430Cf10Mn1Lo6MnfCnaLof9bCn5",
   "Lo247Cn1ab9Lo1eMncMc3Mn3NdaCn6c6Lo239Cn7Lo1fCn1NdaCn4Po2Lo4fCn1NdaCn6Lo1eCn2Mn5Po1CnaLo30Mn7",
   "Po5So4Lm4Po1So1CnaNdaCn1No7Cn1Lo15Cn5Lo13Cn1b0Lm3Lo28Lm2Po3NdaCnc6Lu20Ll20No17Po4Cn65Lo4bCn4",
   "Mn1Lo1Mc37Cn7Mn4LmdCn40Lm2Po1Lm1Mn1CnbMc2CneLo17f8Cn8Lo4d6Cn29LoaCn22e7Lm4Cn1Lm7Cn1Lm2Cn1",
   "Lo123CnfLo1Cn1dLo3Cn2Lo1CneLo4Cn8Lo18cCn904Lo6bCn5LodCn3Lo9Cn7LoaCn2So1Mn2Po1Cf4Cnf5cSof0Nda",
   "Cn6So1b4Cn4cMn2eCn2Mn17Cn9So74Cn3cSof6CnaSo27Cn2So3cMc2Mn3So3Mc6Cf8Mn8So2Mn7So1eMn4So3dCn15",
   "So42Mn3So1Cn7aNo14CncNo14CncSo57Cn9No19Cn87Lu1aLl1aLu1aLl7Cn1Ll12Lu1aLl1aLu1Cn1Lu2Cn2Lu1Cn2",
   "Lu2Cn2Lu4Cn1Lu8Ll4Cn1Ll1Cn1Ll7Cn1LlbLu1aLl1aLu2Cn1Lu4Cn2Lu8Cn1Lu7Cn1Ll1aLu2Cn1Lu4Cn1Lu5Cn1",
   "Lu1Cn3Lu7Cn1Ll1aLu1aLl1aLu1aLl1aLu1aLl1aLu1aLl1aLu1aLl1aLu1aLl1cCn2Lu19Sm1Ll19Sm1Ll6Lu19Sm1",
   "Ll19Sm1Ll6Lu19Sm1Ll19Sm1Ll6Lu19Sm1Ll19Sm1Ll6Lu19Sm1Ll19Sm1Ll6Lu1Ll1Cn2Nd32So200Mn37So4Mn32",
   "So8Mn1SoeMn1So2Po5CnfMn5Cn1MnfCn450LlaLo1Ll14Cn6Ll6Cnd5Mn7Cn1Mn11Cn2Mn7Cn1Mn2Cn1Mn5Cn5Lm3e",
   "Cn21Mn1Cn70Lo2dCn3Mn7Lm7Cn2NdaCn4Lo1So1Cn140Lo1eMn1Cn11Lo2cMn4NdaCn5Sc1Cn1d0Lo1bLm1Mn4Nda",
   "Cnd6Lo1eMn2Lo1NdaCn4Po1Cn1e0Lo7Cn1Lo4Cn1Lo2Cn1LofCn1Loc5Cn2No9Mn7Cn29Lu22Ll22Mn7Lm1Cn4NdaCn4",
   "Po2Cn311No3bSo1No3Sc1No4Cn4cNo2dSo1NofCnc2Lo4Cn1Lo1bCn1Lo2Cn1Lo1Cn2Lo1Cn1LoaCn1Lo4Cn1Lo1Cn1",
   "Lo1Cn6Lo1Cn4Lo1Cn1Lo1Cn1Lo1Cn1Lo3Cn1Lo2Cn1Lo1Cn2Lo1Cn1Lo1Cn1Lo1Cn1Lo1Cn1Lo1Cn1Lo2Cn1Lo1Cn2",
   "Lo4Cn1Lo7Cn1Lo4Cn1Lo4Cn1Lo1Cn1LoaCn1Lo11Cn5Lo3Cn1Lo5Cn1Lo11Cn34Sm2Cn10eSo2cCn4So64CncSofCn2",
   "SofCn1SofCn1So25CnaNodSoa1Cn38So1dCndSo2cCn4So9Cn7So2CneSo6Cn9aSofbSk5So2d8Cn4So11Cn3SodCn3",
   "So77Cn4So5fCn6SocCn4So1CnfSocCn4So38Cn8SoaCn6So28Cn8So1eCn2SocCn4So2Cn3eSo154CncSoeCn2SodCn3",
   "SoaCn5So38Cn7SofCn2SobCn6So9Cn7So93Cn1So5cNdaCn406Loa6e0Cn20Lo103aCn6LodeCn2Lo1682CneLo1d31",
   "CnfLo26eCn9a2Lo21eCn5e2Lo134bCn5Lo1060Cnadc51Cf1Cn1eCf60Cn80Mnf0Cnfe10CofffeCn2CofffeCn2"]

/-- Read the table: the first code point of each run, with the run's category. -/
def readRuns : Nat → Option (Category × Nat) → List Char → List (Nat × Category)
  | pos, none, c :: d :: rest =>
    match ofCode? c d with
    | some k => readRuns pos (some (k, 0)) rest
    | none => []
  | pos, some (k, n), c :: rest =>
    if c.isUpper then
      match rest with
      | d :: rest' =>
        match ofCode? c d with
        | some k' => (pos, k) :: readRuns (pos + n) (some (k', 0)) rest'
        | none => [(pos, k)]
      | [] => [(pos, k)]
    else
      let digit := if c.isDigit then c.toNat - 48 else c.toNat - 87
      readRuns pos (some (k, n * 16 + digit)) rest
  | pos, some (k, _), [] => [(pos, k)]
  | _, none, _ => []

/-- The first code point of each run, with the run's category. -/
def table : Array (Nat × Category) := (readRuns 0 none (String.join runs).toList).toArray

/-- The last run in positions `lo` to `hi - 1` that starts at or before `n`, by bisection. -/
def search (t : Array (Nat × Category)) (n lo hi : Nat) : Category :=
  if hi ≤ lo + 1 then
    match t[lo]? with
    | some (_, k) => k
    | none => .cn
  else
    let mid := (lo + hi) / 2
    match t[mid]? with
    | some (first, _) => if first ≤ n then search t n mid hi else search t n lo mid
    | none => .cn
termination_by hi - lo

/-- The category of a character. -/
def of (c : Char) : Category := search table c.toNat 0 table.size

/-- The category of letters of any kind. -/
def isLetter (k : Category) : Bool := [.lu, .ll, .lt, .lm, .lo].contains k

/-- The category of marks of any kind. -/
def isMark (k : Category) : Bool := [.mn, .mc, .me].contains k

/-- The category of numbers of any kind. -/
def isNumber (k : Category) : Bool := [.nd, .nl, .no].contains k

end Category

/-- Letters in circles and squares: symbols by category, letters by use. -/
def isEnclosedLetter (n : Nat) : Bool :=
  (0x24b6 ≤ n && n ≤ 0x24e9) || (0x1f130 ≤ n && n ≤ 0x1f149) ||
    (0x1f150 ≤ n && n ≤ 0x1f169) || (0x1f170 ≤ n && n ≤ 0x1f189)

/-- A character of words: letters, marks, digits, connecting punctuation and the joiners. -/
def isWord (c : Char) : Bool :=
  let k := Category.of c
  k.isLetter || k.isMark || k == .nl || k == .nd || k == .pc ||
    c.toNat == 0x200c || c.toNat == 0x200d || isEnclosedLetter c.toNat

end Registrar.Text
