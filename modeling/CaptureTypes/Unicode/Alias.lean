/-
# Names of properties and of their values

Names are compared without regard to case, blanks, dashes and low lines.
Each list gives a canonical name and the loose forms that stand for it.
-/
import CaptureTypes.Unicode.CharSet

namespace CaptureTypes.Unicode.Alias

/-- General categories: the code and its loose names. -/
def categories : String :=
  "C:c,other Cc:cc,control,cntrl Cf:cf,format Cn:cn,unassigned Co:co,privateuse Cs:cs,surrogate
   L:l,letter LC:lc,casedletter Ll:ll,lowercaseletter Lm:lm,modifierletter Lo:lo,otherletter
   Lt:lt,titlecaseletter Lu:lu,uppercaseletter M:m,mark,combiningmark Mc:mc,spacingmark
   Me:me,enclosingmark Mn:mn,nonspacingmark N:n,number Nd:nd,decimalnumber,digit Nl:nl,letternumber
   No:no,othernumber P:p,punctuation,punct Pc:pc,connectorpunctuation Pd:pd,dashpunctuation
   Pe:pe,closepunctuation Pf:pf,finalpunctuation Pi:pi,initialpunctuation Po:po,otherpunctuation
   Ps:ps,openpunctuation S:s,symbol Sc:sc,currencysymbol Sk:sk,modifiersymbol Sm:sm,mathsymbol
   So:so,othersymbol Z:z,separator Zl:zl,lineseparator Zp:zp,paragraphseparator
   Zs:zs,spaceseparator"

/-- Scripts: the code, a colon, its loose names. -/
def scripts : String :=
  "Adlm:adlm,adlam Aghb:aghb,caucasianalbanian Ahom:ahom Arab:arab,arabic Armi:armi,imperialaramaic
   Armn:armn,armenian Avst:avst,avestan Bali:bali,balinese Bamu:bamu,bamum Bass:bass,bassavah
   Batk:batk,batak Beng:beng,bengali Bhks:bhks,bhaiksuki Bopo:bopo,bopomofo Brah:brah,brahmi
   Brai:brai,braille Bugi:bugi,buginese Buhd:buhd,buhid Cakm:cakm,chakma
   Cans:cans,canadianaboriginal Cari:cari,carian Cham:cham Cher:cher,cherokee Chrs:chrs,chorasmian
   Copt:copt,coptic,qaac Cpmn:cpmn,cyprominoan Cprt:cprt,cypriot Cyrl:cyrl,cyrillic
   Deva:deva,devanagari Diak:diak,divesakuru Dogr:dogr,dogra Dsrt:dsrt,deseret Dupl:dupl,duployan
   Egyp:egyp,egyptianhieroglyphs Elba:elba,elbasan Elym:elym,elymaic Ethi:ethi,ethiopic
   Geor:geor,georgian Glag:glag,glagolitic Gong:gong,gunjalagondi Gonm:gonm,masaramgondi
   Goth:goth,gothic Gran:gran,grantha Grek:grek,greek Gujr:gujr,gujarati Guru:guru,gurmukhi
   Hang:hang,hangul Hani:hani,han Hano:hano,hanunoo Hatr:hatr,hatran Hebr:hebr,hebrew
   Hira:hira,hiragana Hluw:hluw,anatolianhieroglyphs Hmng:hmng,pahawhhmong
   Hmnp:hmnp,nyiakengpuachuehmong Hung:hung,oldhungarian Ital:ital,olditalic Java:java,javanese
   Kali:kali,kayahli Kana:kana,katakana Kawi:kawi Khar:khar,kharoshthi Khmr:khmr,khmer
   Khoj:khoj,khojki Kits:kits,khitansmallscript Knda:knda,kannada Kthi:kthi,kaithi
   Lana:lana,taitham Laoo:laoo,lao Latn:latn,latin Lepc:lepc,lepcha Limb:limb,limbu
   Lina:lina,lineara Linb:linb,linearb Lisu:lisu Lyci:lyci,lycian Lydi:lydi,lydian
   Mahj:mahj,mahajani Maka:maka,makasar Mand:mand,mandaic Mani:mani,manichaean Marc:marc,marchen
   Medf:medf,medefaidrin Mend:mend,mendekikakui Merc:merc,meroiticcursive
   Mero:mero,meroitichieroglyphs Mlym:mlym,malayalam Modi:modi Mong:mong,mongolian Mroo:mroo,mro
   Mtei:mtei,meeteimayek Mult:mult,multani Mymr:mymr,myanmar Nagm:nagm,nagmundari
   Nand:nand,nandinagari Narb:narb,oldnortharabian Nbat:nbat,nabataean Newa:newa Nkoo:nkoo,nko
   Nshu:nshu,nushu Ogam:ogam,ogham Olck:olck,olchiki Orkh:orkh,oldturkic Orya:orya,oriya
   Osge:osge,osage Osma:osma,osmanya Ougr:ougr,olduyghur Palm:palm,palmyrene Pauc:pauc,paucinhau
   Perm:perm,oldpermic Phag:phag,phagspa Phli:phli,inscriptionalpahlavi Phlp:phlp,psalterpahlavi
   Phnx:phnx,phoenician Plrd:plrd,miao Prti:prti,inscriptionalparthian Rjng:rjng,rejang
   Rohg:rohg,hanifirohingya Runr:runr,runic Samr:samr,samaritan Sarb:sarb,oldsoutharabian
   Saur:saur,saurashtra Sgnw:sgnw,signwriting Shaw:shaw,shavian Shrd:shrd,sharada Sidd:sidd,siddham
   Sind:sind,khudawadi Sinh:sinh,sinhala Sogd:sogd,sogdian Sogo:sogo,oldsogdian
   Sora:sora,sorasompeng Soyo:soyo,soyombo Sund:sund,sundanese Sylo:sylo,sylotinagri
   Syrc:syrc,syriac Tagb:tagb,tagbanwa Takr:takr,takri Tale:tale,taile Talu:talu,newtailue
   Taml:taml,tamil Tang:tang,tangut Tavt:tavt,taiviet Telu:telu,telugu Tfng:tfng,tifinagh
   Tglg:tglg,tagalog Thaa:thaa,thaana Thai:thai Tibt:tibt,tibetan Tirh:tirh,tirhuta
   Tnsa:tnsa,tangsa Toto:toto Ugar:ugar,ugaritic Vaii:vaii,vai Vith:vith,vithkuqi
   Wara:wara,warangciti Wcho:wcho,wancho Xpeo:xpeo,oldpersian Xsux:xsux,cuneiform Yezi:yezi,yezidi
   Yiii:yiii,yi Zanb:zanb,zanabazarsquare Zinh:zinh,inherited,qaai Zyyy:zyyy,common
   Zzzz:zzzz,unknown Gara:gara,garay Gukh:gukh,gurungkhema Krai:krai,kiratrai Onao:onao,olonal
   Sunu:sunu,sunuwar Todr:todr,todhri Tutg:tutg,tulutigalari Sidt:sidt,sidetic Tols:tols,tolongsiki
   Berf:berf,beriaerfe Tayo:tayo,taiyo Hrkt:hrkt,katakanaorhiragana"

/-- Classes of grapheme clusters: the code, a colon, its loose names. -/
def graphemeBreaks : String :=
  "CN:cn,control CR:cr EX:ex,extend L:l LF:lf LV:lv LVT:lvt PP:pp,prepend RI:ri,regionalindicator
   SM:sm,spacingmark T:t V:v ZWJ:zwj"

/-- Classes of words: the code, a colon, its loose names. -/
def wordBreaks : String :=
  "CR:cr DQ:dq,doublequote EX:ex,extendnumlet Extend:extend FO:fo,format HL:hl,hebrewletter
   KA:ka,katakana LE:le,aletter LF:lf MB:mb,midnumlet ML:ml,midletter MN:mn,midnum NL:nl,newline
   NU:nu,numeric RI:ri,regionalindicator SQ:sq,singlequote WSegSpace:wsegspace ZWJ:zwj"

/-- Classes of sentences: the code, a colon, its loose names. -/
def sentenceBreaks : String :=
  "AT:at,aterm CL:cl,close CR:cr EX:ex,extend FO:fo,format LE:le,oletter LF:lf LO:lo,lower
   NU:nu,numeric SC:sc,scontinue SE:se,sep SP:sp ST:st,sterm UP:up,upper"

/-- Properties that take values here: the canonical name and its loose names. -/
def valued : List (String × List String) :=
  [("generalcategory", ["gc", "generalcategory", "category"]), ("script", ["sc", "script"]),
   ("scriptextensions", ["scx", "scriptextensions"]), ("age", ["age"]),
   ("graphemeclusterbreak", ["gcb", "graphemeclusterbreak"]), ("wordbreak", ["wb", "wordbreak"]),
   ("sentencebreak", ["sb", "sentencebreak"])]

/-- Properties of the standard that no query can use: their loose names. -/
def unsupported : List String :=
  ["kaccountingnumeric", "cjkaccountingnumeric", "kothernumeric", "cjkothernumeric",
   "kprimarynumeric", "cjkprimarynumeric", "numericvalue", "nv", "bidimirroringglyph", "bmg",
   "bidipairedbracket", "bpb", "casefolding", "cf", "kcompatibilityvariant",
   "cjkcompatibilityvariant", "decompositionmapping", "dm", "equivalentunifiedideograph", "equideo",
   "fcnfkcclosure", "fcnfkc", "lowercasemapping", "lc", "nfkccasefold", "nfkccf",
   "nfkcsimplecasefold", "nfkcscf", "simplecasefolding", "scf", "sfc", "simplelowercasemapping",
   "slc", "simpletitlecasemapping", "stc", "simpleuppercasemapping", "suc", "titlecasemapping",
   "tc", "uppercasemapping", "uc", "kiicore", "cjkiicore", "kirggsource", "cjkirggsource",
   "kirghsource", "cjkirghsource", "kirgjsource", "cjkirgjsource", "kirgkpsource", "cjkirgkpsource",
   "kirgksource", "cjkirgksource", "kirgmsource", "cjkirgmsource", "kirgssource", "cjkirgssource",
   "kirgtsource", "cjkirgtsource", "kirguksource", "cjkirguksource", "kirgusource", "cjkirgusource",
   "kirgvsource", "cjkirgvsource", "krsunicode", "cjkrsunicode", "unicoderadicalstroke", "urs",
   "isocomment", "isc", "jamoshortname", "jsn", "kehcat", "kehdesc", "kehhg", "kehifao", "kehjsesh",
   "kehnomirror", "kehnorotate", "name", "na", "unicode1name", "na1", "namealias", "block", "blk",
   "bidiclass", "bc", "bidipairedbrackettype", "bpt", "canonicalcombiningclass", "ccc",
   "decompositiontype", "dt", "eastasianwidth", "ea", "hangulsyllabletype", "hst",
   "indicconjunctbreak", "incb", "indicpositionalcategory", "inpc", "indicsyllabiccategory", "insc",
   "joininggroup", "jg", "joiningtype", "jt", "linebreak", "lb", "nfcquickcheck", "nfcqc",
   "nfdquickcheck", "nfdqc", "nfkcquickcheck", "nfkcqc", "nfkdquickcheck", "nfkdqc", "numerictype",
   "nt", "verticalorientation", "vo", "compositionexclusion", "ce", "fullcompositionexclusion",
   "compex", "expandsonnfc", "xonfc", "expandsonnfd", "xonfd", "expandsonnfkc", "xonfkc",
   "expandsonnfkd", "xonfkd"]

/-- The code that a loose name stands for in a list of codes and names. -/
def code? (list name : String) : Option String :=
  (Text.words list.toList).findSome? fun entry =>
    let (code, names) := CharSet.splitAt ':' entry
    if ((String.ofList names).splitOn ",").contains name then some (String.ofList code) else none

end CaptureTypes.Unicode.Alias
