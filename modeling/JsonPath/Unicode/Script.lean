import JsonPath.Unicode.Runs

/-!
# Scripts

Every code point belongs to one script, whose code is four letters.

* `Script.of?` is the script of a character.
* `Script.named?` gives the script that a name or a code stands for.
-/

namespace JsonPath

/-- A script, by its code of four letters. -/
structure Script where
  code : String
deriving DecidableEq, Repr

namespace Script

/-- The names of every script in lower case, its code first. A blank stands between two names of one
script, a semicolon between two scripts. -/
def namesText : String :=
  String.join [
    "adlm adlam;aghb caucasianalbanian;ahom ahom;arab arabic;armi imperialaramaic;",
    "armn armenian;avst avestan;bali balinese;bamu bamum;bass bassavah;batk batak;beng bengali;",
    "bhks bhaiksuki;bopo bopomofo;brah brahmi;brai braille;bugi buginese;buhd buhid;",
    "cakm chakma;cans canadianaboriginal;cari carian;cham cham;cher cherokee;chrs chorasmian;",
    "copt coptic qaac;cpmn cyprominoan;cprt cypriot;cyrl cyrillic;deva devanagari;",
    "diak divesakuru;dogr dogra;dsrt deseret;dupl duployan;egyp egyptianhieroglyphs;",
    "elba elbasan;elym elymaic;ethi ethiopic;gara garay;geor georgian;glag glagolitic;",
    "gong gunjalagondi;gonm masaramgondi;goth gothic;gran grantha;grek greek;gujr gujarati;",
    "gukh gurungkhema;guru gurmukhi;hang hangul;hani han;hano hanunoo;hatr hatran;hebr hebrew;",
    "hira hiragana;hluw anatolianhieroglyphs;hmng pahawhhmong;hmnp nyiakengpuachuehmong;",
    "hung oldhungarian;ital olditalic;java javanese;kali kayahli;kana katakana;kawi kawi;",
    "khar kharoshthi;khmr khmer;khoj khojki;kits khitansmallscript;knda kannada;krai kiratrai;",
    "kthi kaithi;lana taitham;laoo lao;latn latin;lepc lepcha;limb limbu;lina lineara;",
    "linb linearb;lisu lisu;lyci lycian;lydi lydian;mahj mahajani;maka makasar;mand mandaic;",
    "mani manichaean;marc marchen;medf medefaidrin;mend mendekikakui;merc meroiticcursive;",
    "mero meroitichieroglyphs;mlym malayalam;modi modi;mong mongolian;mroo mro;",
    "mtei meeteimayek;mult multani;mymr myanmar;nagm nagmundari;nand nandinagari;",
    "narb oldnortharabian;nbat nabataean;newa newa;nkoo nko;nshu nushu;ogam ogham;olck olchiki;",
    "onao olonal;orkh oldturkic;orya oriya;osge osage;osma osmanya;ougr olduyghur;",
    "palm palmyrene;pauc paucinhau;perm oldpermic;phag phagspa;phli inscriptionalpahlavi;",
    "phlp psalterpahlavi;phnx phoenician;plrd miao;prti inscriptionalparthian;rjng rejang;",
    "rohg hanifirohingya;runr runic;samr samaritan;sarb oldsoutharabian;saur saurashtra;",
    "sgnw signwriting;shaw shavian;shrd sharada;sidd siddham;sind khudawadi;sinh sinhala;",
    "sogd sogdian;sogo oldsogdian;sora sorasompeng;soyo soyombo;sund sundanese;sunu sunuwar;",
    "sylo sylotinagri;syrc syriac;tagb tagbanwa;takr takri;tale taile;talu newtailue;",
    "taml tamil;tang tangut;tavt taiviet;telu telugu;tfng tifinagh;tglg tagalog;thaa thaana;",
    "thai thai;tibt tibetan;tirh tirhuta;tnsa tangsa;todr todhri;toto toto;tutg tulutigalari;",
    "ugar ugaritic;vaii vai;vith vithkuqi;wara warangciti;wcho wancho;xpeo oldpersian;",
    "xsux cuneiform;yezi yezidi;yiii yi;zanb zanabazarsquare;zinh inherited qaai;zyyy common"]

/-- The names of every script in lower case, its code first. -/
def names : List (List String) :=
  (namesText.splitOn ";").map (·.splitOn " ")

/-- The script that a lower-case name without blanks stands for. -/
def named? (name : String) : Option Script :=
  (names.find? (·.contains name)).bind fun all => all.head?.map fun code => ⟨code⟩

/-- The runs of code points of one script: how many there are, then the script's code. -/
def tableText : String :=
  String.join [
    "65Zyyy26Latn6Zyyy26Latn47Zyyy1Latn15Zyyy1Latn5Zyyy23Latn1Zyyy31Latn1Zyyy449Latn39Zyyy5Latn",
    "5Zyyy2Bopo20Zyyy112Zinh4Grek1Zyyy3Grek2Zzzz4Grek1Zyyy1Grek4Zzzz1Grek1Zyyy1Grek1Zyyy3Grek",
    "1Zzzz1Grek1Zzzz20Grek1Zzzz63Grek14Copt16Grek133Cyrl2Zinh169Cyrl1Zzzz38Armn2Zzzz50Armn2Zzzz",
    "3Armn1Zzzz55Hebr8Zzzz27Hebr4Zzzz6Hebr11Zzzz5Arab1Zyyy6Arab1Zyyy14Arab1Zyyy3Arab1Zyyy32Arab",
    "1Zyyy10Arab11Zinh26Arab1Zinh108Arab1Zyyy34Arab14Syrc1Zzzz60Syrc2Zzzz3Syrc48Arab50Thaa",
    "14Zzzz59Nkoo2Zzzz3Nkoo46Samr2Zzzz15Samr1Zzzz28Mand2Zzzz1Mand1Zzzz11Syrc5Zzzz31Arab1Zzzz",
    "2Arab5Zzzz75Arab1Zyyy29Arab81Deva4Zinh15Deva2Zyyy26Deva4Beng1Zzzz8Beng2Zzzz2Beng2Zzzz",
    "22Beng1Zzzz7Beng1Zzzz1Beng3Zzzz4Beng2Zzzz9Beng2Zzzz2Beng2Zzzz4Beng8Zzzz1Beng4Zzzz2Beng",
    "1Zzzz5Beng2Zzzz25Beng2Zzzz3Guru1Zzzz6Guru4Zzzz2Guru2Zzzz22Guru1Zzzz7Guru1Zzzz2Guru1Zzzz",
    "2Guru1Zzzz2Guru2Zzzz1Guru1Zzzz5Guru4Zzzz2Guru2Zzzz3Guru3Zzzz1Guru7Zzzz4Guru1Zzzz1Guru7Zzzz",
    "17Guru10Zzzz3Gujr1Zzzz9Gujr1Zzzz3Gujr1Zzzz22Gujr1Zzzz7Gujr1Zzzz2Gujr1Zzzz5Gujr2Zzzz10Gujr",
    "1Zzzz3Gujr1Zzzz3Gujr2Zzzz1Gujr15Zzzz4Gujr2Zzzz12Gujr7Zzzz7Gujr1Zzzz3Orya1Zzzz8Orya2Zzzz",
    "2Orya2Zzzz22Orya1Zzzz7Orya1Zzzz2Orya1Zzzz5Orya2Zzzz9Orya2Zzzz2Orya2Zzzz3Orya7Zzzz3Orya",
    "4Zzzz2Orya1Zzzz5Orya2Zzzz18Orya10Zzzz2Taml1Zzzz6Taml3Zzzz3Taml1Zzzz4Taml3Zzzz2Taml1Zzzz",
    "1Taml1Zzzz2Taml3Zzzz2Taml3Zzzz3Taml3Zzzz12Taml4Zzzz5Taml3Zzzz3Taml1Zzzz4Taml2Zzzz1Taml",
    "6Zzzz1Taml14Zzzz21Taml5Zzzz13Telu1Zzzz3Telu1Zzzz23Telu1Zzzz16Telu2Zzzz9Telu1Zzzz3Telu1Zzzz",
    "4Telu7Zzzz2Telu1Zzzz3Telu2Zzzz1Telu2Zzzz4Telu2Zzzz10Telu7Zzzz9Telu13Knda1Zzzz3Knda1Zzzz",
    "23Knda1Zzzz10Knda1Zzzz5Knda2Zzzz9Knda1Zzzz3Knda1Zzzz4Knda7Zzzz2Knda6Zzzz2Knda1Zzzz4Knda",
    "2Zzzz10Knda1Zzzz3Knda12Zzzz13Mlym1Zzzz3Mlym1Zzzz51Mlym1Zzzz3Mlym1Zzzz6Mlym4Zzzz16Mlym2Zzzz",
    "26Mlym1Zzzz3Sinh1Zzzz18Sinh3Zzzz24Sinh1Zzzz9Sinh1Zzzz1Sinh2Zzzz7Sinh3Zzzz1Sinh4Zzzz6Sinh",
    "1Zzzz1Sinh1Zzzz8Sinh6Zzzz10Sinh2Zzzz3Sinh12Zzzz58Thai4Zzzz1Zyyy28Thai37Zzzz2Laoo1Zzzz1Laoo",
    "1Zzzz5Laoo1Zzzz24Laoo1Zzzz1Laoo1Zzzz23Laoo2Zzzz5Laoo1Zzzz1Laoo1Zzzz7Laoo1Zzzz10Laoo2Zzzz",
    "4Laoo32Zzzz72Tibt1Zzzz36Tibt4Zzzz39Tibt1Zzzz36Tibt1Zzzz15Tibt1Zzzz7Tibt4Zyyy2Tibt37Zzzz",
    "160Mymr38Geor1Zzzz1Geor5Zzzz1Geor2Zzzz43Geor1Zyyy4Geor256Hang73Ethi1Zzzz4Ethi2Zzzz7Ethi",
    "1Zzzz1Ethi1Zzzz4Ethi2Zzzz41Ethi1Zzzz4Ethi2Zzzz33Ethi1Zzzz4Ethi2Zzzz7Ethi1Zzzz1Ethi1Zzzz",
    "4Ethi2Zzzz15Ethi1Zzzz57Ethi1Zzzz4Ethi2Zzzz67Ethi2Zzzz32Ethi3Zzzz26Ethi6Zzzz86Cher2Zzzz",
    "6Cher2Zzzz640Cans29Ogam3Zzzz75Runr3Zyyy11Runr7Zzzz22Tglg9Zzzz1Tglg21Hano2Zyyy9Zzzz20Buhd",
    "12Zzzz13Tagb1Zzzz3Tagb1Zzzz2Tagb12Zzzz94Khmr2Zzzz10Khmr6Zzzz10Khmr6Zzzz2Mong2Zyyy1Mong",
    "1Zyyy20Mong6Zzzz89Mong7Zzzz43Mong5Zzzz70Cans10Zzzz31Limb1Zzzz12Limb4Zzzz12Limb4Zzzz1Limb",
    "3Zzzz12Limb30Tale2Zzzz5Tale11Zzzz44Talu4Zzzz26Talu6Zzzz11Talu3Zzzz2Talu32Khmr28Bugi2Zzzz",
    "2Bugi63Lana1Zzzz29Lana2Zzzz11Lana6Zzzz10Lana6Zzzz14Lana2Zzzz31Zinh49Zzzz77Bali1Zzzz50Bali",
    "64Sund52Batk8Zzzz4Batk56Lepc3Zzzz15Lepc3Zzzz3Lepc48Olck11Cyrl5Zzzz43Geor2Zzzz3Geor8Sund",
    "8Zzzz3Zinh1Zyyy13Zinh1Zyyy7Zinh4Zyyy1Zinh6Zyyy1Zinh3Zyyy2Zinh1Zyyy5Zzzz38Latn5Grek1Cyrl",
    "49Latn5Grek4Latn5Grek13Latn1Cyrl70Latn1Grek64Zinh256Latn22Grek2Zzzz6Grek2Zzzz38Grek2Zzzz",
    "6Grek2Zzzz8Grek1Zzzz1Grek1Zzzz1Grek1Zzzz1Grek1Zzzz31Grek2Zzzz53Grek1Zzzz15Grek1Zzzz14Grek",
    "2Zzzz6Grek1Zzzz19Grek2Zzzz3Grek1Zzzz9Grek1Zzzz12Zyyy2Zinh87Zyyy1Zzzz11Zyyy1Latn2Zzzz11Zyyy",
    "1Latn15Zyyy1Zzzz13Latn3Zzzz33Zyyy15Zzzz33Zinh15Zzzz38Zyyy1Grek3Zyyy2Latn6Zyyy1Latn27Zyyy",
    "1Latn17Zyyy41Latn3Zyyy4Zzzz666Zyyy22Zzzz11Zyyy21Zzzz928Zyyy256Brai628Zyyy2Zzzz32Zyyy1Zzzz",
    "105Zyyy96Glag32Latn116Copt5Zzzz7Copt38Geor1Zzzz1Geor5Zzzz1Geor2Zzzz56Tfng7Zzzz2Tfng14Zzzz",
    "1Tfng23Ethi9Zzzz7Ethi1Zzzz7Ethi1Zzzz7Ethi1Zzzz7Ethi1Zzzz7Ethi1Zzzz7Ethi1Zzzz7Ethi1Zzzz",
    "7Ethi1Zzzz32Cyrl94Zyyy34Zzzz26Hani1Zzzz89Hani12Zzzz214Hani26Zzzz21Zyyy1Hani1Zyyy1Hani",
    "25Zyyy9Hani4Zinh2Hang8Zyyy4Hani4Zyyy1Zzzz86Hira2Zzzz2Zinh2Zyyy3Hira1Zyyy90Kana2Zyyy3Kana",
    "5Zzzz43Bopo1Zzzz94Hang1Zzzz16Zyyy32Bopo38Zyyy9Zzzz1Zyyy16Kana31Hang1Zzzz64Zyyy31Hang81Zyyy",
    "47Kana1Zyyy88Kana168Zyyy6592Hani64Zyyy20992Hani1165Yiii3Zzzz55Yiii9Zzzz48Lisu300Vaii20Zzzz",
    "96Cyrl88Bamu8Zzzz34Zyyy102Latn3Zyyy67Latn2Zzzz2Latn1Zzzz1Latn1Zzzz8Latn21Zzzz14Latn45Sylo",
    "3Zzzz10Zyyy6Zzzz56Phag8Zzzz70Saur8Zzzz12Saur6Zzzz32Deva46Kali1Zyyy1Kali36Rjng11Zzzz1Rjng",
    "29Hang3Zzzz78Java1Zzzz1Zyyy10Java4Zzzz2Java31Mymr1Zzzz55Cham9Zzzz14Cham2Zzzz10Cham2Zzzz",
    "4Cham32Mymr67Tavt24Zzzz5Tavt23Mtei10Zzzz6Ethi2Zzzz6Ethi2Zzzz6Ethi9Zzzz7Ethi1Zzzz7Ethi1Zzzz",
    "43Latn1Zyyy9Latn1Grek4Latn2Zyyy4Zzzz80Cher46Mtei2Zzzz10Mtei6Zzzz11172Hang12Zzzz23Hang4Zzzz",
    "49Hang8452Zzzz366Hani2Zzzz106Hani38Zzzz7Latn12Zzzz5Armn5Zzzz26Hebr1Zzzz5Hebr1Zzzz1Hebr",
    "1Zzzz2Hebr1Zzzz2Hebr1Zzzz10Hebr115Arab16Zzzz363Arab2Zyyy80Arab2Zzzz54Arab7Zzzz1Arab32Zzzz",
    "16Arab16Zinh10Zyyy6Zzzz14Zinh2Cyrl35Zyyy1Zzzz19Zyyy1Zzzz4Zyyy4Zzzz5Arab1Zzzz135Arab2Zzzz",
    "1Zyyy1Zzzz32Zyyy26Latn6Zyyy26Latn11Zyyy10Kana1Zyyy45Kana2Zyyy31Hang3Zzzz6Hang2Zzzz6Hang",
    "2Zzzz6Hang2Zzzz3Hang3Zzzz7Zyyy1Zzzz7Zyyy10Zzzz5Zyyy2Zzzz12Linb1Zzzz26Linb1Zzzz19Linb1Zzzz",
    "2Linb1Zzzz15Linb2Zzzz14Linb34Zzzz123Linb5Zzzz3Zyyy4Zzzz45Zyyy3Zzzz9Zyyy79Grek1Zzzz13Zyyy",
    "3Zzzz1Grek47Zzzz45Zyyy1Zinh130Zzzz29Lyci3Zzzz49Cari15Zzzz1Zinh27Zyyy4Zzzz36Ital9Zzzz3Ital",
    "27Goth5Zzzz43Perm5Zzzz30Ugar1Zzzz1Ugar36Xpeo4Zzzz14Xpeo42Zzzz80Dsrt48Shaw30Osma2Zzzz10Osma",
    "6Zzzz36Osge4Zzzz36Osge4Zzzz40Elba8Zzzz52Aghb11Zzzz1Aghb11Vith1Zzzz15Vith1Zzzz7Vith1Zzzz",
    "2Vith1Zzzz11Vith1Zzzz15Vith1Zzzz7Vith1Zzzz2Vith3Zzzz52Todr12Zzzz311Lina9Zzzz22Lina10Zzzz",
    "8Lina24Zzzz6Latn1Zzzz42Latn1Zzzz9Latn69Zzzz6Cprt2Zzzz1Cprt1Zzzz44Cprt1Zzzz2Cprt3Zzzz1Cprt",
    "2Zzzz1Cprt22Armi1Zzzz9Armi32Palm31Nbat8Zzzz9Nbat48Zzzz19Hatr1Zzzz2Hatr5Zzzz5Hatr28Phnx",
    "3Zzzz1Phnx26Lydi5Zzzz1Lydi64Zzzz32Mero24Merc4Zzzz20Merc2Zzzz46Merc4Khar1Zzzz2Khar5Zzzz",
    "8Khar1Zzzz3Khar1Zzzz29Khar2Zzzz3Khar4Zzzz10Khar7Zzzz9Khar7Zzzz32Sarb32Narb32Zzzz39Mani",
    "4Zzzz12Mani9Zzzz54Avst3Zzzz7Avst22Prti2Zzzz8Prti19Phli5Zzzz8Phli18Phlp7Zzzz4Phlp12Zzzz",
    "7Phlp80Zzzz73Orkh55Zzzz51Hung13Zzzz51Hung7Zzzz6Hung40Rohg8Zzzz10Rohg6Zzzz38Gara3Zzzz29Gara",
    "8Zzzz2Gara208Zzzz31Arab1Zzzz42Yezi1Zzzz3Yezi2Zzzz2Yezi16Zzzz3Arab55Zzzz4Arab40Sogo8Zzzz",
    "42Sogd22Zzzz26Ougr38Zzzz28Chrs20Zzzz23Elym9Zzzz78Brah4Zzzz36Brah9Zzzz1Brah67Kthi10Zzzz",
    "1Kthi2Zzzz25Sora7Zzzz10Sora6Zzzz53Cakm1Zzzz18Cakm8Zzzz39Mahj9Zzzz96Shrd1Zzzz20Sinh11Zzzz",
    "18Khoj1Zzzz47Khoj62Zzzz7Mult1Zzzz1Mult1Zzzz4Mult1Zzzz15Mult1Zzzz11Mult6Zzzz59Sind5Zzzz",
    "10Sind6Zzzz4Gran1Zzzz8Gran2Zzzz2Gran2Zzzz22Gran1Zzzz7Gran1Zzzz2Gran1Zzzz5Gran1Zzzz1Zinh",
    "9Gran2Zzzz2Gran2Zzzz3Gran2Zzzz1Gran6Zzzz1Gran5Zzzz7Gran2Zzzz7Gran3Zzzz5Gran11Zzzz10Tutg",
    "1Zzzz1Tutg2Zzzz1Tutg1Zzzz38Tutg1Zzzz10Tutg1Zzzz1Tutg2Zzzz1Tutg1Zzzz4Tutg1Zzzz10Tutg1Zzzz",
    "2Tutg8Zzzz2Tutg29Zzzz92Newa1Zzzz5Newa30Zzzz72Tirh8Zzzz10Tirh166Zzzz54Sidd2Zzzz38Sidd34Zzzz",
    "69Modi11Zzzz10Modi6Zzzz13Mong19Zzzz58Takr6Zzzz10Takr6Zzzz20Mymr28Zzzz27Ahom2Zzzz15Ahom",
    "4Zzzz23Ahom185Zzzz60Dogr100Zzzz83Wara12Zzzz1Wara7Diak2Zzzz1Diak2Zzzz8Diak1Zzzz2Diak1Zzzz",
    "30Diak1Zzzz2Diak2Zzzz12Diak9Zzzz10Diak70Zzzz8Nand2Zzzz46Nand2Zzzz11Nand27Zzzz72Zanb8Zzzz",
    "83Soyo13Zzzz16Cans57Pauc7Zzzz10Deva182Zzzz34Sunu14Zzzz10Sunu6Zzzz9Bhks1Zzzz45Bhks1Zzzz",
    "14Bhks10Zzzz29Bhks3Zzzz32Marc2Zzzz22Marc1Zzzz14Marc73Zzzz7Gonm1Zzzz2Gonm1Zzzz44Gonm3Zzzz",
    "1Gonm1Zzzz2Gonm1Zzzz9Gonm8Zzzz10Gonm6Zzzz6Gong1Zzzz2Gong1Zzzz37Gong1Zzzz2Gong1Zzzz6Gong",
    "7Zzzz10Gong310Zzzz25Maka7Zzzz17Kawi1Zzzz41Kawi3Zzzz29Kawi85Zzzz1Lisu15Zzzz50Taml13Zzzz",
    "1Taml922Xsux102Zzzz111Xsux1Zzzz5Xsux11Zzzz196Xsux2636Zzzz99Cpmn13Zzzz1110Egyp10Zzzz",
    "3995Egyp5Zzzz583Hluw6841Zzzz58Gukh1734Zzzz569Bamu7Zzzz31Mroo1Zzzz10Mroo4Zzzz2Mroo79Tnsa",
    "1Zzzz10Tnsa6Zzzz30Bass2Zzzz6Bass10Zzzz70Hmng10Zzzz10Hmng1Zzzz7Hmng1Zzzz21Hmng5Zzzz19Hmng",
    "432Zzzz58Krai198Zzzz91Medf101Zzzz75Plrd4Zzzz57Plrd7Zzzz17Plrd64Zzzz1Tang1Nshu2Hani1Kits",
    "11Zzzz2Hani14Zzzz6136Tang8Zzzz768Tang470Kits41Zzzz1Kits9Tang8935Zzzz4Kana1Zzzz7Kana1Zzzz",
    "2Kana1Zzzz1Kana287Hira3Kana15Zzzz1Hira29Zzzz3Hira2Zzzz1Kana14Zzzz4Kana8Zzzz396Nshu2308Zzzz",
    "107Dupl5Zzzz13Dupl3Zzzz9Dupl7Zzzz10Dupl2Zzzz4Dupl4Zyyy3932Zzzz250Zyyy6Zzzz436Zyyy76Zzzz",
    "46Zinh2Zzzz23Zinh9Zzzz116Zyyy60Zzzz246Zyyy10Zzzz39Zyyy2Zzzz62Zyyy3Zinh17Zyyy8Zinh2Zyyy",
    "7Zinh30Zyyy4Zinh61Zyyy21Zzzz70Grek122Zzzz20Zyyy12Zzzz20Zyyy12Zzzz87Zyyy9Zzzz25Zyyy135Zzzz",
    "85Zyyy1Zzzz71Zyyy1Zzzz2Zyyy2Zzzz1Zyyy2Zzzz2Zyyy2Zzzz4Zyyy1Zzzz12Zyyy1Zzzz1Zyyy1Zzzz7Zyyy",
    "1Zzzz65Zyyy1Zzzz4Zyyy2Zzzz8Zyyy1Zzzz7Zyyy1Zzzz28Zyyy1Zzzz4Zyyy1Zzzz5Zyyy1Zzzz1Zyyy3Zzzz",
    "7Zyyy1Zzzz340Zyyy2Zzzz292Zyyy2Zzzz50Zyyy652Sgnw15Zzzz5Sgnw1Zzzz15Sgnw1104Zzzz31Latn6Zzzz",
    "6Latn213Zzzz7Glag1Zzzz17Glag2Zzzz7Glag1Zzzz2Glag1Zzzz5Glag5Zzzz62Cyrl33Zzzz1Cyrl112Zzzz",
    "45Hmnp3Zzzz14Hmnp2Zzzz10Hmnp4Zzzz2Hmnp320Zzzz31Toto17Zzzz58Wcho5Zzzz1Wcho464Zzzz42Nagm",
    "214Zzzz43Onao4Zzzz1Onao480Zzzz7Ethi1Zzzz4Ethi1Zzzz2Ethi1Zzzz15Ethi1Zzzz197Mend2Zzzz16Mend",
    "41Zzzz76Adlm4Zzzz10Adlm4Zzzz2Adlm785Zzzz68Zyyy76Zzzz61Zyyy194Zzzz4Arab1Zzzz27Arab1Zzzz",
    "2Arab1Zzzz1Arab2Zzzz1Arab1Zzzz10Arab1Zzzz4Arab1Zzzz1Arab1Zzzz1Arab6Zzzz1Arab4Zzzz1Arab",
    "1Zzzz1Arab1Zzzz1Arab1Zzzz3Arab1Zzzz2Arab1Zzzz1Arab2Zzzz1Arab1Zzzz1Arab1Zzzz1Arab1Zzzz1Arab",
    "1Zzzz1Arab1Zzzz2Arab1Zzzz1Arab2Zzzz4Arab1Zzzz7Arab1Zzzz4Arab1Zzzz4Arab1Zzzz1Arab1Zzzz",
    "10Arab1Zzzz17Arab5Zzzz3Arab1Zzzz5Arab1Zzzz17Arab52Zzzz2Arab270Zzzz44Zyyy4Zzzz100Zyyy12Zzzz",
    "15Zyyy2Zzzz15Zyyy1Zzzz15Zyyy1Zzzz37Zyyy10Zzzz174Zyyy56Zzzz26Zyyy1Hira2Zyyy13Zzzz44Zyyy",
    "4Zzzz9Zyyy7Zzzz2Zyyy14Zzzz6Zyyy154Zzzz984Zyyy4Zzzz17Zyyy3Zzzz13Zyyy3Zzzz119Zyyy4Zzzz95Zyyy",
    "6Zzzz12Zyyy4Zzzz1Zyyy15Zzzz12Zyyy4Zzzz56Zyyy8Zzzz10Zyyy6Zzzz40Zyyy8Zzzz30Zyyy2Zzzz12Zyyy",
    "4Zzzz2Zyyy62Zzzz340Zyyy12Zzzz14Zyyy2Zzzz13Zyyy3Zzzz10Zyyy5Zzzz56Zyyy7Zzzz15Zyyy2Zzzz11Zyyy",
    "6Zzzz9Zyyy7Zzzz147Zyyy1Zzzz102Zyyy1030Zzzz42720Hani32Zzzz4154Hani6Zzzz222Hani2Zzzz5762Hani",
    "14Zzzz7473Hani15Zzzz622Hani2466Zzzz542Hani1506Zzzz4939Hani5Zzzz4192Hani711761Zzzz1Zyyy",
    "30Zzzz96Zyyy128Zzzz240Zinh196112Zzzz"]

/-- The scripts of all code points. -/
def table : Runs Script :=
  (Runs.decode tableText).map fun run => (run.1, ⟨run.2.toLower⟩)

/-- The runs of code points that are used in the same scripts: how many there are, then the codes of
the scripts, or `Own` where there is none but the script that they belong to. -/
def usesText : String :=
  String.join [
    "183Own1AvstCariCoptDuplElbaGeorGlagGongGothGrekHaniLatnLydiMahjPermShaw516Own",
    "1BengCyrlDevaLatnLisuThaiToto10Own1BopoLatn1Own3BopoLatn1Own1LatnLisu9Own1LatnThai1Own",
    "1BopoLatn38Own1CherCoptCyrlGrekLatnPermSunuTale1CherCyrlGrekLatnOsgeSunuTaleTodr",
    "1CherCyrlLatnTfng1GlagLatnSunuSyrcThai1AghbCherCoptCyrlGothGrekLatnOsgeSyrcTfngTodr",
    "1CoptElbaGlagGothKanaLatn1CyrlGrekLatnPerm1CoptDuplHebrLatnPermSyrcTaleTfngTodr",
    "1ArmnCyrlDuplGothGrekHebrLatnPermSyrcTale1LatnTfng1DuplLatnSyrc1CherCyrlLatnOsge",
    "1CherLatnTale1LatnSunu1EthiLatn1Own1LatnSunu1CyrlLatnTodr1Own1GrekLatnPermTodr12Own",
    "1LatnSyrc2Own1CherDuplKanaLatnSyrc1CherDuplLatnSyrc1LatnSyrc7Own1LatnSunuSyrc1LatnSyrc1Own",
    "1CherLatnSyrc1AghbCherGothLatnSunuThai16Own1Grek2Own1Grek18Own1LatnOsge5Own1AghbLatnTodr",
    "4Own13Latn4Own2CoptGrek269Own1CyrlPerm1CyrlGlag2CyrlLatn1CyrlGlag257Own1ArmnGeorGlag130Own",
    "1ArabGaraNkooRohgSyrcThaaYezi14Own1ArabGaraNkooRohgSyrcThaaYezi1ArabSyrcThaa2Own",
    "1AdlmArabGaraNkooRohgSyrcThaaYezi32Own1AdlmArabMandManiOugrPhlpRohgSogdSyrc10Own11ArabSyrc",
    "10Own10ArabThaaYezi6Own1ArabSyrc99Own1ArabRohg636Own",
    "1BengDevaGranGujrGuruKndaLatnMlymNandNewaOryaShrdTamlTeluTirh",
    "1BengDevaGranGujrGuruKndaLatnMlymNewaOryaTamlTeluTirh17Own",
    "1BengDevaDogrGongGonmGranGujrGuruKndaMahjMlymNandOnaoOryaSindSinhSyloTakrTamlTeluTirh",
    "1BengDevaDogrGongGonmGranGujrGukhGuruKndaLimbMahjMlymNandOnaoOryaSindSinhSyloTakrTamlTeluTirh",
    "10DevaDogrKthiMahj118Own10BengCakmSylo118Own10GuruMult118Own10GujrKhoj246Own14GranTaml",
    "242Own10KndaNandTutg848Own10CakmMymrTale177Own1GeorGlagLatn1519Own3Runr71Own",
    "2BuhdHanoTagbTglg203Own2MongPhag1Own1MongPhag1226Own1BengDevaGranKnda1Deva",
    "1BengDevaGranKnda1DevaGranKnda1Deva1BengDevaNewaTeluTirh1BengDevaTelu1DevaNewaShrd",
    "1BengDevaNewaTelu1DevaShrd1DevaKndaMlymOryaTamlTelu1Deva2DevaShrd2Deva1DevaShrd1BengDeva",
    "1DevaNewaTirh6Deva1DevaNandNewa1BengDevaShrd1DevaNewa1Deva1BengDevaNewaShrd4Deva",
    "1BengDevaGranKndaMlymNandOryaSinhTeluTirhTutg1DevaGran1DevaGranKndaTutg2BengDeva1Beng",
    "2DevaGran1Nand197Own2Grek54Own1CyrlLatnSyrc1Own1Syrc564Own1LatnMongPhag31Own1AdlmArab10Own",
    "1CariGeorGlagHungLyciOrkh2Own1CariGrekHungMero146Own1DevaGranLatn3366Own1CoptLatn24Own",
    "1AvstOrkh1AvstCariGeorHungKthiLydiSamr10Own1Dupl4Own1AdlmArabHung1Own1CyrlGlag428Own",
    "16HaniTang1Own1BopoHangHaniHiraKanaMongYiii1BopoHangHaniHiraKanaMongPhagYiii",
    "1BopoHangHaniHiraKana2Own1Hani1Own2BopoHangHaniHiraKanaMongTibtYiii",
    "2BopoHangHaniHiraKanaLisuMongTibtYiii6BopoHangHaniHiraKanaYiii1Own1BopoHangHaniHiraKana",
    "8BopoHangHaniHiraKanaYiii4BopoHangHaniHiraKana10Own4BopoHani2Own1BopoHangHaniHiraKana",
    "5HiraKana1Own1BopoHangHaniHiraKana4Own2HaniHiraKana2Hani89Own4HiraKana3Own1HiraKana90Own",
    "1BopoHangHaniHiraKanaYiii1HiraKana147Own16Hani32Own38Hani9Own1HaniTang48Own40Hani56Own",
    "49Hani15Own12Hani51Own1Hani88Own25Hani10Own5Hani96Own31Hani29296Own1CyrlGlag144Own",
    "8HaniLatn296Own3DevaDogrGujrGuruKhojKndaKthiMahjMlymModiNandShrdSindTakrTirhTutg",
    "3DevaDogrGujrGuruKhojKndaKthiMahjModiNandShrdSindTakrTirhTutg",
    "2DevaDogrGujrGuruKhojKthiMahjModiSindTakrTirh",
    "1DevaDogrGujrGuruKhojKthiMahjModiShrdSindTakrTirh",
    "1DevaDogrGujrGuruKhojKthiMahjModiSindTakrTirh183Own1BengDevaTutg1Own1DevaTaml58Own",
    "1KaliLatnMymr160Own1BugiJava21358Own2ArabNkoo178Own1ArabThaa10Own1ArabThaa71Own",
    "2BopoHangHaniHiraKana282Own5BopoHangHaniHiraKanaYiii10Own1HiraKana45Own2HiraKana352Own",
    "2CpmnCprtLinb1CprtLinb4Own45CprtLinaLinb3Own9CprtLinb416Own28ArabCopt2038Own1ManiOugr",
    "2062Own1GranTaml1Own1GranTaml55Own2GranTaml3219Own2GranTaml1Own1GranTaml40140Own4Dupl",
    "5820Own18Hani7902Own2Hani986542Own"]

/-- The scripts of codes that are written one after the other. -/
def ofCodes : List Char → List Script
  | a :: b :: c :: d :: rest => ⟨String.ofList ([a, b, c, d].map Char.toLower)⟩ :: ofCodes rest
  | _ => []

/-- The scripts that code points are used in. None is listed where there is none but the script that
they belong to. -/
def uses : Runs (List Script) :=
  (Runs.decode usesText).map fun run => (run.1, ofCodes run.2.toList)

/-- The script of a character. -/
def of? (c : Char) : Option Script :=
  table.value? c.toNat

end Script

end JsonPath
