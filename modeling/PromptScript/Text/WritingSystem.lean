import PromptScript.Text.Runs

/-!
# Writing systems

The writing system of every character in Unicode 17, and those with which a character that
belongs to several is used.
-/

namespace PromptScript.Text

/-- A writing system, by its code of four letters. -/
structure WritingSystem where
  code : String
  deriving DecidableEq, Repr

namespace WritingSystem

/-- The codes of the writing systems with their names, which have no capitals and no
punctuation. -/
def names : List (String × String) := [
    ("Adlm", "adlam"), ("Aghb", "caucasianalbanian"), ("Ahom", "ahom"), ("Arab", "arabic"),
    ("Armi", "imperialaramaic"), ("Armn", "armenian"), ("Avst", "avestan"),
    ("Bali", "balinese"), ("Bamu", "bamum"), ("Bass", "bassavah"), ("Batk", "batak"),
    ("Beng", "bengali"), ("Berf", "beriaerfe"), ("Bhks", "bhaiksuki"), ("Bopo", "bopomofo"),
    ("Brah", "brahmi"), ("Brai", "braille"), ("Bugi", "buginese"), ("Buhd", "buhid"),
    ("Cakm", "chakma"), ("Cans", "canadianaboriginal"), ("Cari", "carian"), ("Cham", "cham"),
    ("Cher", "cherokee"), ("Chrs", "chorasmian"), ("Copt", "coptic"), ("Cpmn", "cyprominoan"),
    ("Cprt", "cypriot"), ("Cyrl", "cyrillic"), ("Deva", "devanagari"), ("Diak", "divesakuru"),
    ("Dogr", "dogra"), ("Dsrt", "deseret"), ("Dupl", "duployan"),
    ("Egyp", "egyptianhieroglyphs"), ("Elba", "elbasan"), ("Elym", "elymaic"),
    ("Ethi", "ethiopic"), ("Gara", "garay"), ("Geor", "georgian"), ("Glag", "glagolitic"),
    ("Gong", "gunjalagondi"), ("Gonm", "masaramgondi"), ("Goth", "gothic"), ("Gran", "grantha"),
    ("Grek", "greek"), ("Gujr", "gujarati"), ("Gukh", "gurungkhema"), ("Guru", "gurmukhi"),
    ("Hang", "hangul"), ("Hani", "han"), ("Hano", "hanunoo"), ("Hatr", "hatran"),
    ("Hebr", "hebrew"), ("Hira", "hiragana"), ("Hluw", "anatolianhieroglyphs"),
    ("Hmng", "pahawhhmong"), ("Hmnp", "nyiakengpuachuehmong"), ("Hung", "oldhungarian"),
    ("Ital", "olditalic"), ("Java", "javanese"), ("Kali", "kayahli"), ("Kana", "katakana"),
    ("Kawi", "kawi"), ("Khar", "kharoshthi"), ("Khmr", "khmer"), ("Khoj", "khojki"),
    ("Kits", "khitansmallscript"), ("Knda", "kannada"), ("Krai", "kiratrai"),
    ("Kthi", "kaithi"), ("Lana", "taitham"), ("Laoo", "lao"), ("Latn", "latin"),
    ("Lepc", "lepcha"), ("Limb", "limbu"), ("Lina", "lineara"), ("Linb", "linearb"),
    ("Lisu", "lisu"), ("Lyci", "lycian"), ("Lydi", "lydian"), ("Mahj", "mahajani"),
    ("Maka", "makasar"), ("Mand", "mandaic"), ("Mani", "manichaean"), ("Marc", "marchen"),
    ("Medf", "medefaidrin"), ("Mend", "mendekikakui"), ("Merc", "meroiticcursive"),
    ("Mero", "meroitichieroglyphs"), ("Mlym", "malayalam"), ("Modi", "modi"),
    ("Mong", "mongolian"), ("Mroo", "mro"), ("Mtei", "meeteimayek"), ("Mult", "multani"),
    ("Mymr", "myanmar"), ("Nagm", "nagmundari"), ("Nand", "nandinagari"),
    ("Narb", "oldnortharabian"), ("Nbat", "nabataean"), ("Newa", "newa"), ("Nkoo", "nko"),
    ("Nshu", "nushu"), ("Ogam", "ogham"), ("Olck", "olchiki"), ("Onao", "olonal"),
    ("Orkh", "oldturkic"), ("Orya", "oriya"), ("Osge", "osage"), ("Osma", "osmanya"),
    ("Ougr", "olduyghur"), ("Palm", "palmyrene"), ("Pauc", "paucinhau"), ("Perm", "oldpermic"),
    ("Phag", "phagspa"), ("Phli", "inscriptionalpahlavi"), ("Phlp", "psalterpahlavi"),
    ("Phnx", "phoenician"), ("Plrd", "miao"), ("Prti", "inscriptionalparthian"),
    ("Rjng", "rejang"), ("Rohg", "hanifirohingya"), ("Runr", "runic"), ("Samr", "samaritan"),
    ("Sarb", "oldsoutharabian"), ("Saur", "saurashtra"), ("Sgnw", "signwriting"),
    ("Shaw", "shavian"), ("Shrd", "sharada"), ("Sidd", "siddham"), ("Sidt", "sidetic"),
    ("Sind", "khudawadi"), ("Sinh", "sinhala"), ("Sogd", "sogdian"), ("Sogo", "oldsogdian"),
    ("Sora", "sorasompeng"), ("Soyo", "soyombo"), ("Sund", "sundanese"), ("Sunu", "sunuwar"),
    ("Sylo", "sylotinagri"), ("Syrc", "syriac"), ("Tagb", "tagbanwa"), ("Takr", "takri"),
    ("Tale", "taile"), ("Talu", "newtailue"), ("Taml", "tamil"), ("Tang", "tangut"),
    ("Tavt", "taiviet"), ("Tayo", "taiyo"), ("Telu", "telugu"), ("Tfng", "tifinagh"),
    ("Tglg", "tagalog"), ("Thaa", "thaana"), ("Thai", "thai"), ("Tibt", "tibetan"),
    ("Tirh", "tirhuta"), ("Tnsa", "tangsa"), ("Todr", "todhri"), ("Tols", "tolongsiki"),
    ("Toto", "toto"), ("Tutg", "tulutigalari"), ("Ugar", "ugaritic"), ("Vaii", "vai"),
    ("Vith", "vithkuqi"), ("Wara", "warangciti"), ("Wcho", "wancho"), ("Xpeo", "oldpersian"),
    ("Xsux", "cuneiform"), ("Yezi", "yezidi"), ("Yiii", "yi"), ("Zanb", "zanabazarsquare"),
    ("Zinh", "inherited"), ("Zyyy", "common")]

/-- The writing system with a name or code that is written without capitals and punctuation. -/
def ofName? (name : String) : Option WritingSystem :=
  if name == "qaac" then some ⟨"Copt"⟩
  else if name == "qaai" then some ⟨"Zinh"⟩
  else (names.find? fun entry => entry.2 == name || entry.1.toLower == name).map fun entry =>
    ⟨entry.1⟩

end WritingSystem

/-- The writing systems of the code points from zero on, in runs. -/
def writingText : String := String.join [
    "Zyyy65Latn26Zyyy6Latn26Zyyy47Latn1Zyyy15Latn1Zyyy5Latn23Zyyy1Latn31Zyyy1Latn449Zyyy39Latn5",
    "Zyyy5Bopo2Zyyy20Zinh112Grek4Zyyy1Grek3Zzzz2Grek4Zyyy1Grek1Zzzz4Grek1Zyyy1Grek1Zyyy1Grek3",
    "Zzzz1Grek1Zzzz1Grek20Zzzz1Grek63Copt14Grek16Cyrl133Zinh2Cyrl169Zzzz1Armn38Zzzz2Armn50Zzzz2",
    "Armn3Zzzz1Hebr55Zzzz8Hebr27Zzzz4Hebr6Zzzz11Arab5Zyyy1Arab6Zyyy1Arab14Zyyy1Arab3Zyyy1Arab32",
    "Zyyy1Arab10Zinh11Arab26Zinh1Arab108Zyyy1Arab34Syrc14Zzzz1Syrc60Zzzz2Syrc3Arab48Thaa50Zzzz14",
    "Nkoo59Zzzz2Nkoo3Samr46Zzzz2Samr15Zzzz1Mand28Zzzz2Mand1Zzzz1Syrc11Zzzz5Arab34Zzzz5Arab75Zyyy1",
    "Arab29Deva81Zinh4Deva15Zyyy2Deva26Beng4Zzzz1Beng8Zzzz2Beng2Zzzz2Beng22Zzzz1Beng7Zzzz1Beng1",
    "Zzzz3Beng4Zzzz2Beng9Zzzz2Beng2Zzzz2Beng4Zzzz8Beng1Zzzz4Beng2Zzzz1Beng5Zzzz2Beng25Zzzz2Guru3",
    "Zzzz1Guru6Zzzz4Guru2Zzzz2Guru22Zzzz1Guru7Zzzz1Guru2Zzzz1Guru2Zzzz1Guru2Zzzz2Guru1Zzzz1Guru5",
    "Zzzz4Guru2Zzzz2Guru3Zzzz3Guru1Zzzz7Guru4Zzzz1Guru1Zzzz7Guru17Zzzz10Gujr3Zzzz1Gujr9Zzzz1Gujr3",
    "Zzzz1Gujr22Zzzz1Gujr7Zzzz1Gujr2Zzzz1Gujr5Zzzz2Gujr10Zzzz1Gujr3Zzzz1Gujr3Zzzz2Gujr1Zzzz15",
    "Gujr4Zzzz2Gujr12Zzzz7Gujr7Zzzz1Orya3Zzzz1Orya8Zzzz2Orya2Zzzz2Orya22Zzzz1Orya7Zzzz1Orya2Zzzz1",
    "Orya5Zzzz2Orya9Zzzz2Orya2Zzzz2Orya3Zzzz7Orya3Zzzz4Orya2Zzzz1Orya5Zzzz2Orya18Zzzz10Taml2Zzzz1",
    "Taml6Zzzz3Taml3Zzzz1Taml4Zzzz3Taml2Zzzz1Taml1Zzzz1Taml2Zzzz3Taml2Zzzz3Taml3Zzzz3Taml12Zzzz4",
    "Taml5Zzzz3Taml3Zzzz1Taml4Zzzz2Taml1Zzzz6Taml1Zzzz14Taml21Zzzz5Telu13Zzzz1Telu3Zzzz1Telu23",
    "Zzzz1Telu16Zzzz2Telu9Zzzz1Telu3Zzzz1Telu4Zzzz7Telu2Zzzz1Telu3Zzzz1Telu2Zzzz2Telu4Zzzz2Telu10",
    "Zzzz7Telu9Knda13Zzzz1Knda3Zzzz1Knda23Zzzz1Knda10Zzzz1Knda5Zzzz2Knda9Zzzz1Knda3Zzzz1Knda4",
    "Zzzz7Knda2Zzzz5Knda3Zzzz1Knda4Zzzz2Knda10Zzzz1Knda3Zzzz12Mlym13Zzzz1Mlym3Zzzz1Mlym51Zzzz1",
    "Mlym3Zzzz1Mlym6Zzzz4Mlym16Zzzz2Mlym26Zzzz1Sinh3Zzzz1Sinh18Zzzz3Sinh24Zzzz1Sinh9Zzzz1Sinh1",
    "Zzzz2Sinh7Zzzz3Sinh1Zzzz4Sinh6Zzzz1Sinh1Zzzz1Sinh8Zzzz6Sinh10Zzzz2Sinh3Zzzz12Thai58Zzzz4",
    "Zyyy1Thai28Zzzz37Laoo2Zzzz1Laoo1Zzzz1Laoo5Zzzz1Laoo24Zzzz1Laoo1Zzzz1Laoo23Zzzz2Laoo5Zzzz1",
    "Laoo1Zzzz1Laoo7Zzzz1Laoo10Zzzz2Laoo4Zzzz32Tibt72Zzzz1Tibt36Zzzz4Tibt39Zzzz1Tibt36Zzzz1Tibt15",
    "Zzzz1Tibt7Zyyy4Tibt2Zzzz37Mymr160Geor38Zzzz1Geor1Zzzz5Geor1Zzzz2Geor43Zyyy1Geor4Hang256",
    "Ethi73Zzzz1Ethi4Zzzz2Ethi7Zzzz1Ethi1Zzzz1Ethi4Zzzz2Ethi41Zzzz1Ethi4Zzzz2Ethi33Zzzz1Ethi4",
    "Zzzz2Ethi7Zzzz1Ethi1Zzzz1Ethi4Zzzz2Ethi15Zzzz1Ethi57Zzzz1Ethi4Zzzz2Ethi67Zzzz2Ethi32Zzzz3",
    "Ethi26Zzzz6Cher86Zzzz2Cher6Zzzz2Cans640Ogam29Zzzz3Runr75Zyyy3Runr11Zzzz7Tglg22Zzzz9Tglg1",
    "Hano21Zyyy2Zzzz9Buhd20Zzzz12Tagb13Zzzz1Tagb3Zzzz1Tagb2Zzzz12Khmr94Zzzz2Khmr10Zzzz6Khmr10",
    "Zzzz6Mong2Zyyy2Mong1Zyyy1Mong20Zzzz6Mong89Zzzz7Mong43Zzzz5Cans70Zzzz10Limb31Zzzz1Limb12Zzzz4",
    "Limb12Zzzz4Limb1Zzzz3Limb12Tale30Zzzz2Tale5Zzzz11Talu44Zzzz4Talu26Zzzz6Talu11Zzzz3Talu2",
    "Khmr32Bugi28Zzzz2Bugi2Lana63Zzzz1Lana29Zzzz2Lana11Zzzz6Lana10Zzzz6Lana14Zzzz2Zinh46Zzzz2",
    "Zinh12Zzzz20Bali77Zzzz1Bali50Sund64Batk52Zzzz8Batk4Lepc56Zzzz3Lepc15Zzzz3Lepc3Olck48Cyrl11",
    "Zzzz5Geor43Zzzz2Geor3Sund8Zzzz8Zinh3Zyyy1Zinh13Zyyy1Zinh7Zyyy4Zinh1Zyyy6Zinh1Zyyy3Zinh2Zyyy1",
    "Zzzz5Latn38Grek5Cyrl1Latn49Grek5Latn4Grek5Latn13Cyrl1Latn70Grek1Zinh64Latn256Grek22Zzzz2",
    "Grek6Zzzz2Grek38Zzzz2Grek6Zzzz2Grek8Zzzz1Grek1Zzzz1Grek1Zzzz1Grek1Zzzz1Grek31Zzzz2Grek53",
    "Zzzz1Grek15Zzzz1Grek14Zzzz2Grek6Zzzz1Grek19Zzzz2Grek3Zzzz1Grek9Zzzz1Zyyy12Zinh2Zyyy87Zzzz1",
    "Zyyy11Latn1Zzzz2Zyyy11Latn1Zyyy15Zzzz1Latn13Zzzz3Zyyy34Zzzz14Zinh33Zzzz15Zyyy38Grek1Zyyy3",
    "Latn2Zyyy6Latn1Zyyy27Latn1Zyyy17Latn41Zyyy3Zzzz4Zyyy666Zzzz22Zyyy11Zzzz21Zyyy928Brai256",
    "Zyyy628Zzzz2Zyyy138Glag96Latn32Copt116Zzzz5Copt7Geor38Zzzz1Geor1Zzzz5Geor1Zzzz2Tfng56Zzzz7",
    "Tfng2Zzzz14Tfng1Ethi23Zzzz9Ethi7Zzzz1Ethi7Zzzz1Ethi7Zzzz1Ethi7Zzzz1Ethi7Zzzz1Ethi7Zzzz1Ethi7",
    "Zzzz1Ethi7Zzzz1Cyrl32Zyyy94Zzzz34Hani26Zzzz1Hani89Zzzz12Hani214Zzzz26Zyyy21Hani1Zyyy1Hani1",
    "Zyyy25Hani9Zinh4Hang2Zyyy8Hani4Zyyy4Zzzz1Hira86Zzzz2Zinh2Zyyy2Hira3Zyyy1Kana90Zyyy2Kana3",
    "Zzzz5Bopo43Zzzz1Hang94Zzzz1Zyyy16Bopo32Zyyy38Zzzz9Zyyy1Kana16Hang31Zzzz1Zyyy64Hang31Zyyy81",
    "Kana47Zyyy1Kana88Zyyy168Hani6592Zyyy64Hani20992Yiii1165Zzzz3Yiii55Zzzz9Lisu48Vaii300Zzzz20",
    "Cyrl96Bamu88Zzzz8Zyyy34Latn102Zyyy3Latn82Zzzz20Latn15Sylo45Zzzz3Zyyy10Zzzz6Phag56Zzzz8Saur70",
    "Zzzz8Saur12Zzzz6Deva32Kali46Zyyy1Kali1Rjng36Zzzz11Rjng1Hang29Zzzz3Java78Zzzz1Zyyy1Java10",
    "Zzzz4Java2Mymr31Zzzz1Cham55Zzzz9Cham14Zzzz2Cham10Zzzz2Cham4Mymr32Tavt67Zzzz24Tavt5Mtei23",
    "Zzzz10Ethi6Zzzz2Ethi6Zzzz2Ethi6Zzzz9Ethi7Zzzz1Ethi7Zzzz1Latn43Zyyy1Latn9Grek1Latn4Zyyy2Zzzz4",
    "Cher80Mtei46Zzzz2Mtei10Zzzz6Hang11172Zzzz12Hang23Zzzz4Hang49Zzzz8452Hani366Zzzz2Hani106",
    "Zzzz38Latn7Zzzz12Armn5Zzzz5Hebr26Zzzz1Hebr5Zzzz1Hebr1Zzzz1Hebr2Zzzz1Hebr2Zzzz1Hebr10Arab494",
    "Zyyy2Arab144Zzzz32Arab16Zinh16Zyyy10Zzzz6Zinh14Cyrl2Zyyy35Zzzz1Zyyy19Zzzz1Zyyy4Zzzz4Arab5",
    "Zzzz1Arab135Zzzz2Zyyy1Zzzz1Zyyy32Latn26Zyyy6Latn26Zyyy11Kana10Zyyy1Kana45Zyyy2Hang31Zzzz3",
    "Hang6Zzzz2Hang6Zzzz2Hang6Zzzz2Hang3Zzzz3Zyyy7Zzzz1Zyyy7Zzzz10Zyyy5Zzzz2Linb12Zzzz1Linb26",
    "Zzzz1Linb19Zzzz1Linb2Zzzz1Linb15Zzzz2Linb14Zzzz34Linb123Zzzz5Zyyy3Zzzz4Zyyy45Zzzz3Zyyy9",
    "Grek79Zzzz1Zyyy13Zzzz3Grek1Zzzz47Zyyy45Zinh1Zzzz130Lyci29Zzzz3Cari49Zzzz15Zinh1Zyyy27Zzzz4",
    "Ital36Zzzz9Ital3Goth27Zzzz5Perm43Zzzz5Ugar30Zzzz1Ugar1Xpeo36Zzzz4Xpeo14Zzzz42Dsrt80Shaw48",
    "Osma30Zzzz2Osma10Zzzz6Osge36Zzzz4Osge36Zzzz4Elba40Zzzz8Aghb52Zzzz11Aghb1Vith11Zzzz1Vith15",
    "Zzzz1Vith7Zzzz1Vith2Zzzz1Vith11Zzzz1Vith15Zzzz1Vith7Zzzz1Vith2Zzzz3Todr52Zzzz12Lina311Zzzz9",
    "Lina22Zzzz10Lina8Zzzz24Latn6Zzzz1Latn42Zzzz1Latn9Zzzz69Cprt6Zzzz2Cprt1Zzzz1Cprt44Zzzz1Cprt2",
    "Zzzz3Cprt1Zzzz2Cprt1Armi22Zzzz1Armi9Palm32Nbat31Zzzz8Nbat9Zzzz48Hatr19Zzzz1Hatr2Zzzz5Hatr5",
    "Phnx28Zzzz3Phnx1Lydi26Zzzz5Lydi1Sidt26Zzzz38Mero32Merc24Zzzz4Merc20Zzzz2Merc46Khar4Zzzz1",
    "Khar2Zzzz5Khar8Zzzz1Khar3Zzzz1Khar29Zzzz2Khar3Zzzz4Khar10Zzzz7Khar9Zzzz7Sarb32Narb32Zzzz32",
    "Mani39Zzzz4Mani12Zzzz9Avst54Zzzz3Avst7Prti22Zzzz2Prti8Phli19Zzzz5Phli8Phlp18Zzzz7Phlp4Zzzz12",
    "Phlp7Zzzz80Orkh73Zzzz55Hung51Zzzz13Hung51Zzzz7Hung6Rohg40Zzzz8Rohg10Zzzz6Gara38Zzzz3Gara29",
    "Zzzz8Gara2Zzzz208Arab31Zzzz1Yezi42Zzzz1Yezi3Zzzz2Yezi2Zzzz16Arab6Zzzz8Arab9Zzzz33Arab6Sogo40",
    "Zzzz8Sogd42Zzzz22Ougr26Zzzz38Chrs28Zzzz20Elym23Zzzz9Brah78Zzzz4Brah36Zzzz9Brah1Kthi67Zzzz10",
    "Kthi1Zzzz2Sora25Zzzz7Sora10Zzzz6Cakm53Zzzz1Cakm18Zzzz8Mahj39Zzzz9Shrd96Zzzz1Sinh20Zzzz11",
    "Khoj18Zzzz1Khoj47Zzzz62Mult7Zzzz1Mult1Zzzz1Mult4Zzzz1Mult15Zzzz1Mult11Zzzz6Sind59Zzzz5Sind10",
    "Zzzz6Gran4Zzzz1Gran8Zzzz2Gran2Zzzz2Gran22Zzzz1Gran7Zzzz1Gran2Zzzz1Gran5Zzzz1Zinh1Gran9Zzzz2",
    "Gran2Zzzz2Gran3Zzzz2Gran1Zzzz6Gran1Zzzz5Gran7Zzzz2Gran7Zzzz3Gran5Zzzz11Tutg10Zzzz1Tutg1Zzzz2",
    "Tutg1Zzzz1Tutg38Zzzz1Tutg10Zzzz1Tutg1Zzzz2Tutg1Zzzz1Tutg4Zzzz1Tutg10Zzzz1Tutg2Zzzz8Tutg2",
    "Zzzz29Newa92Zzzz1Newa5Zzzz30Tirh72Zzzz8Tirh10Zzzz166Sidd54Zzzz2Sidd38Zzzz34Modi69Zzzz11",
    "Modi10Zzzz6Mong13Zzzz19Takr58Zzzz6Takr10Zzzz6Mymr20Zzzz28Ahom27Zzzz2Ahom15Zzzz4Ahom23Zzzz185",
    "Dogr60Zzzz100Wara83Zzzz12Wara1Diak7Zzzz2Diak1Zzzz2Diak8Zzzz1Diak2Zzzz1Diak30Zzzz1Diak2Zzzz2",
    "Diak12Zzzz9Diak10Zzzz70Nand8Zzzz2Nand46Zzzz2Nand11Zzzz27Zanb72Zzzz8Soyo83Zzzz13Cans16Pauc57",
    "Zzzz7Deva10Zzzz86Shrd8Zzzz88Sunu34Zzzz14Sunu10Zzzz6Bhks9Zzzz1Bhks45Zzzz1Bhks14Zzzz10Bhks29",
    "Zzzz3Marc32Zzzz2Marc22Zzzz1Marc14Zzzz73Gonm7Zzzz1Gonm2Zzzz1Gonm44Zzzz3Gonm1Zzzz1Gonm2Zzzz1",
    "Gonm9Zzzz8Gonm10Zzzz6Gong6Zzzz1Gong2Zzzz1Gong37Zzzz1Gong2Zzzz1Gong6Zzzz7Gong10Zzzz6Tols44",
    "Zzzz4Tols10Zzzz246Maka25Zzzz7Kawi17Zzzz1Kawi41Zzzz3Kawi29Zzzz85Lisu1Zzzz15Taml50Zzzz13Taml1",
    "Xsux922Zzzz102Xsux111Zzzz1Xsux5Zzzz11Xsux196Zzzz2636Cpmn99Zzzz13Egyp1110Zzzz10Egyp3995Zzzz5",
    "Hluw583Zzzz6841Gukh58Zzzz1734Bamu569Zzzz7Mroo31Zzzz1Mroo10Zzzz4Mroo2Tnsa79Zzzz1Tnsa10Zzzz6",
    "Bass30Zzzz2Bass6Zzzz10Hmng70Zzzz10Hmng10Zzzz1Hmng7Zzzz1Hmng21Zzzz5Hmng19Zzzz432Krai58Zzzz198",
    "Medf91Zzzz5Berf25Zzzz2Berf25Zzzz44Plrd75Zzzz4Plrd57Zzzz7Plrd17Zzzz64Tang1Nshu1Hani2Kits1",
    "Zzzz11Hani7Zzzz9Tang6912Kits470Zzzz41Kits1Tang31Zzzz97Tang115Zzzz8701Kana4Zzzz1Kana7Zzzz1",
    "Kana2Zzzz1Kana1Hira287Kana3Zzzz15Hira1Zzzz29Hira3Zzzz2Kana1Zzzz14Kana4Zzzz8Nshu396Zzzz2308",
    "Dupl107Zzzz5Dupl13Zzzz3Dupl9Zzzz7Dupl10Zzzz2Dupl4Zyyy4Zzzz3932Zyyy253Zzzz3Zyyy436Zzzz6Zyyy23",
    "Zzzz15Zyyy17Zzzz15Zinh46Zzzz2Zinh23Zzzz9Zyyy116Zzzz60Zyyy246Zzzz10Zyyy39Zzzz2Zyyy62Zinh3",
    "Zyyy17Zinh8Zyyy2Zinh7Zyyy30Zinh4Zyyy61Zzzz21Grek70Zzzz122Zyyy20Zzzz12Zyyy20Zzzz12Zyyy87Zzzz9",
    "Zyyy25Zzzz135Zyyy85Zzzz1Zyyy71Zzzz1Zyyy2Zzzz2Zyyy1Zzzz2Zyyy2Zzzz2Zyyy4Zzzz1Zyyy12Zzzz1Zyyy1",
    "Zzzz1Zyyy7Zzzz1Zyyy65Zzzz1Zyyy4Zzzz2Zyyy8Zzzz1Zyyy7Zzzz1Zyyy28Zzzz1Zyyy4Zzzz1Zyyy5Zzzz1Zyyy1",
    "Zzzz3Zyyy7Zzzz1Zyyy340Zzzz2Zyyy292Zzzz2Zyyy50Sgnw652Zzzz15Sgnw5Zzzz1Sgnw15Zzzz1104Latn31",
    "Zzzz6Latn6Zzzz213Glag7Zzzz1Glag17Zzzz2Glag7Zzzz1Glag2Zzzz1Glag5Zzzz5Cyrl62Zzzz33Cyrl1Zzzz112",
    "Hmnp45Zzzz3Hmnp14Zzzz2Hmnp10Zzzz4Hmnp2Zzzz320Toto31Zzzz17Wcho58Zzzz5Wcho1Zzzz464Nagm42",
    "Zzzz214Onao43Zzzz4Onao1Zzzz192Tayo31Zzzz1Tayo22Zzzz8Tayo2Zzzz224Ethi7Zzzz1Ethi4Zzzz1Ethi2",
    "Zzzz1Ethi15Zzzz1Mend197Zzzz2Mend16Zzzz41Adlm76Zzzz4Adlm10Zzzz4Adlm2Zzzz785Zyyy68Zzzz76Zyyy61",
    "Zzzz194Arab4Zzzz1Arab27Zzzz1Arab2Zzzz1Arab1Zzzz2Arab1Zzzz1Arab10Zzzz1Arab4Zzzz1Arab1Zzzz1",
    "Arab1Zzzz6Arab1Zzzz4Arab1Zzzz1Arab1Zzzz1Arab1Zzzz1Arab3Zzzz1Arab2Zzzz1Arab1Zzzz2Arab1Zzzz1",
    "Arab1Zzzz1Arab1Zzzz1Arab1Zzzz1Arab1Zzzz1Arab2Zzzz1Arab1Zzzz2Arab4Zzzz1Arab7Zzzz1Arab4Zzzz1",
    "Arab4Zzzz1Arab1Zzzz1Arab10Zzzz1Arab17Zzzz5Arab3Zzzz1Arab5Zzzz1Arab17Zzzz52Arab2Zzzz270Zyyy44",
    "Zzzz4Zyyy100Zzzz12Zyyy15Zzzz2Zyyy15Zzzz1Zyyy15Zzzz1Zyyy37Zzzz10Zyyy174Zzzz56Zyyy26Hira1Zyyy2",
    "Zzzz13Zyyy44Zzzz4Zyyy9Zzzz7Zyyy2Zzzz14Zyyy6Zzzz154Zyyy985Zzzz3Zyyy17Zzzz3Zyyy13Zzzz3Zyyy218",
    "Zzzz6Zyyy12Zzzz4Zyyy1Zzzz15Zyyy12Zzzz4Zyyy56Zzzz8Zyyy10Zzzz6Zyyy40Zzzz8Zyyy30Zzzz2Zyyy12",
    "Zzzz4Zyyy2Zzzz14Zyyy9Zzzz39Zyyy344Zzzz8Zyyy14Zzzz2Zyyy13Zzzz3Zyyy11Zzzz3Zyyy57Zzzz1Zyyy1",
    "Zzzz4Zyyy16Zzzz2Zyyy12Zzzz4Zyyy10Zzzz7Zyyy147Zzzz1Zyyy103Zzzz1029Hani42720Zzzz32Hani4382",
    "Zzzz2Hani5774Zzzz2Hani7473Zzzz15Hani622Zzzz2466Hani542Zzzz1506Hani4939Zzzz5Hani8490",
    "Zzzz707463Zyyy1Zzzz30Zyyy96Zzzz128Zinh240Zzzz196112"
  ]

/-- The runs of code points with one writing system. -/
def writingRuns : List (WritingSystem × Nat) :=
  (labelledRuns writingText).map fun (code, length) => (⟨code⟩, length)

/-- The writing system of a character. -/
def writingOf (c : Char) : WritingSystem :=
  labelAt ⟨"Zzzz"⟩ writingRuns c.toNat

/-- The code points from one to another, and the codes of the writing systems that use them. -/
structure SharedRange where
  first : Nat
  last : Nat
  users : String

/-- The characters that are used with other writing systems than their own. -/
def sharedRanges : List SharedRange := [
    ⟨0xB7, 0xB7, "Avst Cari Copt Dupl Elba Geor Glag Gong Goth Grek Hani Latn Lydi Mahj Perm Shaw"⟩,
    ⟨0x2BC, 0x2BC, "Beng Cyrl Deva Latn Lisu Thai Toto"⟩, ⟨0x2C7, 0x2C7, "Bopo Latn"⟩,
    ⟨0x2C9, 0x2CB, "Bopo Latn"⟩, ⟨0x2CD, 0x2CD, "Latn Lisu"⟩, ⟨0x2D7, 0x2D7, "Latn Thai"⟩,
    ⟨0x2D9, 0x2D9, "Bopo Latn"⟩, ⟨0x300, 0x300, "Cher Copt Cyrl Grek Latn Perm Sunu Tale"⟩,
    ⟨0x301, 0x301, "Cher Cyrl Grek Latn Osge Sunu Tale Todr"⟩,
    ⟨0x302, 0x302, "Cher Cyrl Latn Tfng"⟩, ⟨0x303, 0x303, "Glag Latn Sunu Syrc Thai"⟩,
    ⟨0x304, 0x304, "Aghb Cher Copt Cyrl Goth Grek Latn Osge Syrc Tfng Todr"⟩,
    ⟨0x305, 0x305, "Copt Elba Glag Goth Kana Latn"⟩, ⟨0x306, 0x306, "Cyrl Grek Latn Perm Tfng"⟩,
    ⟨0x307, 0x307, "Copt Dupl Hebr Latn Perm Syrc Tale Tfng Todr"⟩,
    ⟨0x308, 0x308, "Armn Cyrl Dupl Goth Grek Hebr Latn Perm Syrc Tale Tfng"⟩,
    ⟨0x309, 0x309, "Latn Tfng"⟩, ⟨0x30A, 0x30A, "Dupl Latn Syrc"⟩,
    ⟨0x30B, 0x30B, "Cher Cyrl Latn Osge"⟩, ⟨0x30C, 0x30C, "Cher Latn Tale"⟩,
    ⟨0x30D, 0x30D, "Latn Sunu"⟩, ⟨0x30E, 0x30E, "Ethi Latn"⟩, ⟨0x310, 0x310, "Latn Sunu"⟩,
    ⟨0x311, 0x311, "Cyrl Latn Todr"⟩, ⟨0x313, 0x313, "Grek Latn Perm Todr"⟩,
    ⟨0x323, 0x323, "Cher Dupl Kana Latn Syrc Tfng"⟩, ⟨0x324, 0x324, "Cher Dupl Latn Syrc"⟩,
    ⟨0x325, 0x325, "Latn Syrc"⟩, ⟨0x32D, 0x32D, "Latn Sunu Syrc"⟩, ⟨0x32E, 0x32E, "Latn Syrc"⟩,
    ⟨0x330, 0x330, "Cher Latn Syrc"⟩, ⟨0x331, 0x331, "Aghb Cher Goth Latn Sunu Syrc Thai"⟩,
    ⟨0x342, 0x342, "Grek"⟩, ⟨0x345, 0x345, "Grek"⟩, ⟨0x358, 0x358, "Latn Osge"⟩,
    ⟨0x35E, 0x35E, "Aghb Latn Todr"⟩, ⟨0x363, 0x36F, "Latn"⟩, ⟨0x374, 0x374, "Copt Grek"⟩,
    ⟨0x375, 0x375, "Copt Grek"⟩, ⟨0x483, 0x483, "Cyrl Perm"⟩, ⟨0x484, 0x484, "Cyrl Glag"⟩,
    ⟨0x485, 0x486, "Cyrl Latn"⟩, ⟨0x487, 0x487, "Cyrl Glag"⟩, ⟨0x589, 0x589, "Armn Geor Glag"⟩,
    ⟨0x60C, 0x60C, "Arab Gara Nkoo Rohg Syrc Thaa Yezi"⟩,
    ⟨0x61B, 0x61B, "Arab Gara Nkoo Rohg Syrc Thaa Yezi"⟩, ⟨0x61C, 0x61C, "Arab Syrc Thaa"⟩,
    ⟨0x61F, 0x61F, "Adlm Arab Gara Nkoo Rohg Syrc Thaa Yezi"⟩,
    ⟨0x640, 0x640, "Adlm Arab Mand Mani Ougr Phlp Rohg Sogd Syrc"⟩, ⟨0x64B, 0x655, "Arab Syrc"⟩,
    ⟨0x660, 0x669, "Arab Thaa Yezi"⟩, ⟨0x670, 0x670, "Arab Syrc"⟩, ⟨0x6D4, 0x6D4, "Arab Rohg"⟩,
    ⟨0x951, 0x951, "Beng Deva Gran Gujr Guru Knda Latn Mlym Nand Newa Orya Shrd Taml Telu Tirh"⟩,
    ⟨0x952, 0x952, "Beng Deva Gran Gujr Guru Knda Latn Mlym Newa Orya Taml Telu Tirh"⟩,
    ⟨0x964, 0x964, "Beng Deva Dogr Gong Gonm Gran Gujr Guru Knda Mahj Mlym Nand Onao Orya Sind Sinh Sylo Takr Taml Telu Tirh"⟩,
    ⟨0x965, 0x965, "Beng Deva Dogr Gong Gonm Gran Gujr Gukh Guru Knda Limb Mahj Mlym Nand Onao Orya Sind Sinh Sylo Takr Taml Telu Tirh"⟩,
    ⟨0x966, 0x96F, "Deva Dogr Kthi Mahj"⟩, ⟨0x9E6, 0x9EF, "Beng Cakm Sylo"⟩,
    ⟨0xA66, 0xA6F, "Guru Mult"⟩, ⟨0xAE6, 0xAEF, "Gujr Khoj"⟩, ⟨0xBE6, 0xBF3, "Gran Taml"⟩,
    ⟨0xCE6, 0xCEF, "Knda Nand Tutg"⟩, ⟨0x1040, 0x1049, "Cakm Mymr Tale"⟩,
    ⟨0x10FB, 0x10FB, "Geor Glag Latn"⟩, ⟨0x16EB, 0x16ED, "Runr"⟩,
    ⟨0x1735, 0x1736, "Buhd Hano Tagb Tglg"⟩, ⟨0x1802, 0x1803, "Mong Phag"⟩,
    ⟨0x1805, 0x1805, "Mong Phag"⟩, ⟨0x1CD0, 0x1CD0, "Beng Deva Gran Knda"⟩,
    ⟨0x1CD1, 0x1CD1, "Deva"⟩, ⟨0x1CD2, 0x1CD2, "Beng Deva Gran Knda"⟩,
    ⟨0x1CD3, 0x1CD3, "Deva Gran Knda"⟩, ⟨0x1CD4, 0x1CD4, "Deva"⟩,
    ⟨0x1CD5, 0x1CD5, "Beng Deva Newa Telu Tirh"⟩, ⟨0x1CD6, 0x1CD6, "Beng Deva Telu"⟩,
    ⟨0x1CD7, 0x1CD7, "Deva Newa Shrd"⟩, ⟨0x1CD8, 0x1CD8, "Beng Deva Newa Telu"⟩,
    ⟨0x1CD9, 0x1CD9, "Deva Shrd"⟩, ⟨0x1CDA, 0x1CDA, "Deva Knda Mlym Orya Taml Telu"⟩,
    ⟨0x1CDB, 0x1CDB, "Deva"⟩, ⟨0x1CDC, 0x1CDD, "Deva Shrd"⟩, ⟨0x1CDE, 0x1CDF, "Deva"⟩,
    ⟨0x1CE0, 0x1CE0, "Deva Shrd"⟩, ⟨0x1CE1, 0x1CE1, "Beng Deva"⟩,
    ⟨0x1CE2, 0x1CE2, "Deva Newa Tirh"⟩, ⟨0x1CE3, 0x1CE8, "Deva"⟩,
    ⟨0x1CE9, 0x1CE9, "Deva Nand Newa"⟩, ⟨0x1CEA, 0x1CEA, "Beng Deva Shrd"⟩,
    ⟨0x1CEB, 0x1CEB, "Deva Newa"⟩, ⟨0x1CEC, 0x1CEC, "Deva"⟩,
    ⟨0x1CED, 0x1CED, "Beng Deva Newa Shrd"⟩, ⟨0x1CEE, 0x1CF1, "Deva"⟩,
    ⟨0x1CF2, 0x1CF2, "Beng Deva Gran Knda Mlym Nand Orya Sinh Telu Tirh Tutg"⟩,
    ⟨0x1CF3, 0x1CF3, "Deva Gran"⟩, ⟨0x1CF4, 0x1CF4, "Deva Gran Knda Tutg"⟩,
    ⟨0x1CF5, 0x1CF6, "Beng Deva"⟩, ⟨0x1CF7, 0x1CF7, "Beng"⟩, ⟨0x1CF8, 0x1CF9, "Deva Gran"⟩,
    ⟨0x1CFA, 0x1CFA, "Nand"⟩, ⟨0x1DC0, 0x1DC1, "Grek"⟩, ⟨0x1DF8, 0x1DF8, "Cyrl Latn Syrc"⟩,
    ⟨0x1DFA, 0x1DFA, "Syrc"⟩, ⟨0x202F, 0x202F, "Latn Mong Phag"⟩, ⟨0x204F, 0x204F, "Adlm Arab"⟩,
    ⟨0x205A, 0x205A, "Cari Geor Glag Hung Lyci Orkh"⟩, ⟨0x205D, 0x205D, "Cari Grek Hung Mero"⟩,
    ⟨0x20F0, 0x20F0, "Deva Gran Latn"⟩, ⟨0x2E17, 0x2E17, "Copt Latn"⟩,
    ⟨0x2E30, 0x2E30, "Avst Orkh"⟩, ⟨0x2E31, 0x2E31, "Avst Cari Geor Hung Kthi Lydi Samr"⟩,
    ⟨0x2E3C, 0x2E3C, "Dupl"⟩, ⟨0x2E41, 0x2E41, "Adlm Arab Hung"⟩, ⟨0x2E43, 0x2E43, "Cyrl Glag"⟩,
    ⟨0x2FF0, 0x2FFF, "Hani Tang"⟩, ⟨0x3001, 0x3001, "Bopo Hang Hani Hira Kana Mong Yiii"⟩,
    ⟨0x3002, 0x3002, "Bopo Hang Hani Hira Kana Mong Phag Yiii"⟩,
    ⟨0x3003, 0x3003, "Bopo Hang Hani Hira Kana"⟩, ⟨0x3006, 0x3006, "Hani"⟩,
    ⟨0x3008, 0x3009, "Bopo Hang Hani Hira Kana Mong Tibt Yiii"⟩,
    ⟨0x300A, 0x300B, "Bopo Hang Hani Hira Kana Lisu Mong Tibt Yiii"⟩,
    ⟨0x300C, 0x3011, "Bopo Hang Hani Hira Kana Yiii"⟩,
    ⟨0x3013, 0x3013, "Bopo Hang Hani Hira Kana"⟩,
    ⟨0x3014, 0x301B, "Bopo Hang Hani Hira Kana Yiii"⟩,
    ⟨0x301C, 0x301F, "Bopo Hang Hani Hira Kana"⟩, ⟨0x302A, 0x302D, "Bopo Hani"⟩,
    ⟨0x3030, 0x3030, "Bopo Hang Hani Hira Kana"⟩, ⟨0x3031, 0x3035, "Hira Kana"⟩,
    ⟨0x3037, 0x3037, "Bopo Hang Hani Hira Kana"⟩, ⟨0x303C, 0x303D, "Hani Hira Kana"⟩,
    ⟨0x303E, 0x303F, "Hani"⟩, ⟨0x3099, 0x309A, "Hira Kana"⟩, ⟨0x309B, 0x309C, "Hira Kana"⟩,
    ⟨0x30A0, 0x30A0, "Hira Kana"⟩, ⟨0x30FB, 0x30FB, "Bopo Hang Hani Hira Kana Yiii"⟩,
    ⟨0x30FC, 0x30FC, "Hira Kana"⟩, ⟨0x3190, 0x319F, "Hani"⟩, ⟨0x31C0, 0x31E5, "Hani"⟩,
    ⟨0x31EF, 0x31EF, "Hani Tang"⟩, ⟨0x3220, 0x3247, "Hani"⟩, ⟨0x3280, 0x32B0, "Hani"⟩,
    ⟨0x32C0, 0x32CB, "Hani"⟩, ⟨0x32FF, 0x32FF, "Hani"⟩, ⟨0x3358, 0x3370, "Hani"⟩,
    ⟨0x337B, 0x337F, "Hani"⟩, ⟨0x33E0, 0x33FE, "Hani"⟩, ⟨0xA66F, 0xA66F, "Cyrl Glag"⟩,
    ⟨0xA700, 0xA707, "Hani Latn"⟩,
    ⟨0xA830, 0xA832, "Deva Dogr Gujr Guru Khoj Knda Kthi Mahj Mlym Modi Nand Shrd Sind Takr Tirh Tutg"⟩,
    ⟨0xA833, 0xA835, "Deva Dogr Gujr Guru Khoj Knda Kthi Mahj Modi Nand Shrd Sind Takr Tirh Tutg"⟩,
    ⟨0xA836, 0xA837, "Deva Dogr Gujr Guru Khoj Kthi Mahj Modi Sind Takr Tirh"⟩,
    ⟨0xA838, 0xA838, "Deva Dogr Gujr Guru Khoj Kthi Mahj Modi Shrd Sind Takr Tirh"⟩,
    ⟨0xA839, 0xA839, "Deva Dogr Gujr Guru Khoj Kthi Mahj Modi Sind Takr Tirh"⟩,
    ⟨0xA8F1, 0xA8F1, "Beng Deva Tutg"⟩, ⟨0xA8F3, 0xA8F3, "Deva Taml"⟩,
    ⟨0xA92E, 0xA92E, "Kali Latn Mymr"⟩, ⟨0xA9CF, 0xA9CF, "Bugi Java"⟩,
    ⟨0xFD3E, 0xFD3F, "Arab Nkoo"⟩, ⟨0xFDF2, 0xFDF2, "Arab Thaa"⟩, ⟨0xFDFD, 0xFDFD, "Arab Thaa"⟩,
    ⟨0xFE45, 0xFE46, "Bopo Hang Hani Hira Kana"⟩,
    ⟨0xFF61, 0xFF65, "Bopo Hang Hani Hira Kana Yiii"⟩, ⟨0xFF70, 0xFF70, "Hira Kana"⟩,
    ⟨0xFF9E, 0xFF9F, "Hira Kana"⟩, ⟨0x10100, 0x10101, "Cpmn Cprt Linb"⟩,
    ⟨0x10102, 0x10102, "Cprt Linb"⟩, ⟨0x10107, 0x10133, "Cprt Lina Linb"⟩,
    ⟨0x10137, 0x1013F, "Cprt Linb"⟩, ⟨0x102E0, 0x102E0, "Arab Copt"⟩,
    ⟨0x102E1, 0x102FB, "Arab Copt"⟩, ⟨0x10AF2, 0x10AF2, "Mani Ougr"⟩,
    ⟨0x11301, 0x11301, "Gran Taml"⟩, ⟨0x11303, 0x11303, "Gran Taml"⟩,
    ⟨0x1133B, 0x1133B, "Gran Taml"⟩, ⟨0x1133C, 0x1133C, "Gran Taml"⟩,
    ⟨0x11FD0, 0x11FD1, "Gran Taml"⟩, ⟨0x11FD3, 0x11FD3, "Gran Taml"⟩,
    ⟨0x1BCA0, 0x1BCA3, "Dupl"⟩, ⟨0x1D360, 0x1D371, "Hani"⟩, ⟨0x1F250, 0x1F251, "Hani"⟩]

/-- Whether a character is used with a writing system. -/
def isUsedIn (system : WritingSystem) (c : Char) : Bool :=
  match sharedRanges.find? fun range => range.first ≤ c.toNat && c.toNat ≤ range.last with
  | some range => (range.users.splitOn " ").contains system.code
  | none => writingOf c == system

end PromptScript.Text
