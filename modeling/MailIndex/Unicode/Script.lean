import MailIndex.Unicode.Packed

namespace MailIndex.Unicode

open Text

/-- The characters of one script; `extension` tells which of all characters are in exactly one of
the script and the set of those that are used with it. -/
structure Script where
  names : List String
  packed : List String
  extension : List String

def scriptTable : List Script := [
  ⟨["adlm", "adlam"], ["HDEuCyekec"], ["CIhbBgbJWobFHhb"]⟩,
  ⟨["ahom"], ["EBRcBbcpex"], []⟩,
  ⟨["hluw", "anatolianhieroglyphs"], ["ESSeWl"], []⟩,
  ⟨["arab", "arabic"], [
    "CHcfbgbobdbBgbklBabEebBiDcBwJgBifCxbBdDNTwTacFoBgqEifbFfFVnBfCpgijBhgDGLsebBbbcbbcbbkbebb",
    "bbgbebbbbbbdbcbbcbbbbbbbbbbcbbcebhbebebbbkbrfdbfbrCac"], [
    "CHobobdbBgbklBabJUsbFHhbDAKacCDkBc"]⟩,
  ⟨["armn", "armenian"], ["BZdBmcBycdDOZjf"], ["BDwb"]⟩,
  ⟨["avst", "avestan"], ["DXCyCcdh"], ["HbbRFsc"]⟩,
  ⟨["bali", "balinese"], ["KFwCzbBy"], []⟩,
  ⟨["bamu", "bamum"], ["CLCqDkCVCqVx"], []⟩,
  ⟨["bass", "bassavah"], ["FHKiBecg"], []⟩,
  ⟨["batk", "batak"], ["KNgCaie"], []⟩,
  ⟨["beng", "bengali"], ["DPoebicccwbhbbdecjccceibecbfcz"], [
    "BAybCMucrcHJebbbccbbibibcbebcdCBAfb"]⟩,
  ⟨["berf", "beriaerfe"], ["FIVwzcz"], []⟩,
  ⟨["bhks", "bhaiksuki"], ["EDOijbBtbokBd"], []⟩,
  ⟨["bopo", "bopomofo"], ["BCscRLxBrEiBg"], ["BBjbbdnbRCpdekbnkecbgbHnbCZThcKwf"]⟩,
  ⟨["brah", "brahmi"], ["DZAeDaeBkjb"], []⟩,
  ⟨["brai", "braille"], ["PDwJw"], []⟩,
  ⟨["bugi", "buginese"], ["JWaBccc"], ["CMHzb"]⟩,
  ⟨["buhd", "buhid"], ["IUyu"], ["IUnc"]⟩,
  ⟨["cans", "canadianaboriginal"], ["HOyYqVoCsDTPqq"], []⟩,
  ⟨["cari", "carian"], ["DTYmBx"], ["HbbLZmbcbFGdb"]⟩,
  ⟨["aghb", "caucasianalbanian"], ["DUXsCalb"], ["BDsbBsbBsb"]⟩,
  ⟨["cakm", "chakma"], ["DZKaCbbs"], ["DTmkCKek"]⟩,
  ⟨["cham"], ["CMJwCdjockce"], []⟩,
  ⟨["cher", "cherokee"], ["HLgDicgCFJeDc"], ["BDodbbgcwclc"]⟩,
  ⟨["chrs", "chorasmian"], ["DYXcBc"], []⟩,
  ⟨["zyyy", "common"], [
    "aCnBagBaBvbpbfxbBfbRhBnffcuEmbjbgbbbYnbgbobdbBgbGabTwbEzcBVtbPpeLebCGldCtcHvcbbBVhbnbhebg",
    "bdcbBDtmcDjbldlbprBiCkBmbdcgbBbbrBpdeZqwlvBJsJwYecFiTsDqPmvbbbzpieeDncdbDmcFrqBgBmjbBwCmB",
    "fDdBvbDkGmJToCmBHSiBiDydGjkJkbGebPfbocBEZqcIakwBjbtbeFrbbBgBagBalkbBtcCmhbhkfJydeBtdjDcnB",
    "zBtIuBbCSHweFVgJtdQugxprDrEmCiJmkBncCkdrichBeeCjIfumumDjjzFfDhbCtbccbcccebmbbbhbCnbecibhb",
    "BcbebfbbdhbNccLgcByHThCqCyCjBBeBseDwmpcpbpbBlkGsCeBabcnBsejhcogFyBLxdrdndIkgmebpmeCeikgBo",
    "iBecmecojBnNgiocndldCfbbeqcmekhFrbDzBSUXabBeDs"], [
    "HbbTwbkbbdbbjbbbFybZnbobdbBgbBExcCWrbCGldCtcHvcbbBVhbnbhebgbdcbBFobBfbkbcbFFdbyckbebbbQmq",
    "bdcbbkbnqgbbeeDncdbDmcFrqBgBmjbBwBoCeBxpmBzbDkzkfDsBfBROjiLkkJkbGebBFPmcKbcKwfkbBtcNodeBt",
    "djQbBbCSHweIPwsLRyc"]⟩,
  ⟨["xsux", "cuneiform"], ["EFBsBJmDyEhbflHo"], []⟩,
  ⟨["cprt", "cypriot"], ["DVZkgcbbBsbcdbcb"], ["DTImdeBtdj"]⟩,
  ⟨["cpmn", "cyprominoan"], ["EKYyDv"], ["DTImc"]⟩,
  ⟨["cyrl", "cyrillic"], ["BNkFdcGnIVolGebCybGFnBgBTOaDsBHEccDHPgCkBhb"], [
    "BAybCpdbbbbbbcbfbOhcJQnbGEkb"]⟩,
  ⟨["dsrt", "deseret"], ["DUMaDc"], []⟩,
  ⟨["deva", "devanagari"], ["DKqDdepcBaCIJgBgBREmk"], ["BAybCMucrcHJeBnbcBNabBZFrk"]⟩,
  ⟨["diak", "divesakuru"], ["ECKuhcbcibcbBebccmjk"], []⟩,
  ⟨["dogr", "dogra"], ["ECAyCi"], ["DOmmCIDck"]⟩,
  ⟨["dupl", "duployan"], ["GMDsEdfndjhkce"], ["HbbWtcbbycQIhbFUWpe"]⟩,
  ⟨["egyp", "egyptianhieroglyphs"], ["ELDgBQskFXr"], []⟩,
  ⟨["elba", "elbasan"], ["DUVwBo"], ["HbbWrb"]⟩,
  ⟨["elym", "elymaic"], ["DYYyx"], []⟩,
  ⟨["ethi", "ethiopic"], [
    "GVgCvbechbbbecBpbecBhbechbbbecpbCfbecCpcBgdBaJVaxjhbhbhbhbhbhbhbhBVKcgcgcgjhbhEPYfhbebcbp"], [
    "BEcb"]⟩,
  ⟨["gara", "garay"], ["DXZcBmdBdic"], ["CHobobdb"]⟩,
  ⟨["geor", "georgian"], ["GHsBmbbfbcBrbeEJwBrcdGEaBmbbfb"], ["HbbBVlbEIrbFVibFGgb"]⟩,
  ⟨["glag", "glagolitic"], ["QRgDsGIZghbrchbcbf"], ["HbbWpbbbOsbcbJxbEIrbFVibFGybBTNfb"]⟩,
  ⟨["goth", "gothic"], ["DUEaBb"], ["HbbWqccbBob"]⟩,
  ⟨["gran", "grantha"], ["EADsebicccwbhbcbfcjcccdcbgbfhchdf"], [
    "DNtcrcYqoGKabbcBeddcBNabDNTqbETwcbb"]⟩,
  ⟨["grek", "greek"], [
    "BHwebdcebbebbbbdbbbubCloqJNqfByfefDgbMiwcgcBmcgcibbbbbbbBfcCbbpbocgbtcdbjLjbCAJebBGNiDbrb",
    "DAXrCs"], ["HbbWmccbbbbbkbBubcbBubJYxcZrb"]⟩,
  ⟨["gujr", "gujarati"], ["DZldbjbdbwbhbcbfckbdbdcbpecmhh"], ["DNtcrcCIDmk"]⟩,
  ⟨["gong", "gunjalagondi"], ["EEBwgbcbBlbcbghk"], ["HbbDHkc"]⟩,
  ⟨["guru", "gurmukhi"], ["DUndbgeccwbhbcbcbccbbfeccddbhebbhr"], ["DNtcrcCIDmk"]⟩,
  ⟨["gukh", "gurungkhema"], ["FDRsCg"], ["DOnb"]⟩,
  ⟨["hani", "han"], [
    "RPwBabDlmIgBvbbbzjoeBLcJToCmBFBkBHSiOccEcBSIicmhCCOfCLFcBgGMocIOccLBlpXyDQwUwCFyHHzfMOo"], [
    "HbbRWyqbdcbbkbnkecbgbeeHfbFsqBgBmjbBwBoCeBxpmBzbDkzkfDsBfBROjiBHAzcKwfDCHesLRyc"]⟩,
  ⟨["hang", "hangul"], ["GLkJwLLecJxDqEjBfCnBfBTAnBdYtQNsmxeBxPAiBfdgcgcgcd"], [
    "SErdekbnqbgbHnbCZThcKwf"]⟩,
  ⟨["rohg", "hanifirohingya"], ["DXWqBoik"], ["CHobobdbBgbFrb"]⟩,
  ⟨["hano", "hanunoo"], ["ITsv"], ["IUnc"]⟩,
  ⟨["hatr", "hatran"], ["DWIatbcff"], []⟩,
  ⟨["hebr", "hebrew"], ["CCvCdiBbegDOVwBabfbbbcbcbk"], ["BDvc"]⟩,
  ⟨["hira", "hiragana"], ["SHdDigdFPEvLbsbBddYMvb"], ["SErdekbnqgbbecDnedbDmcCZTgcKwfkbBtc"]⟩,
  ⟨["armi", "imperialaramaic"], ["DWBwwbj"], []⟩,
  ⟨["phli", "inscriptionalpahlavi"], ["DXGqtfi"], []⟩,
  ⟨["prti", "inscriptionalparthian"], ["DXFkwci"], []⟩,
  ⟨["java", "javanese"], ["CMEyDackec"], ["CMHzb"]⟩,
  ⟨["kthi", "kaithi"], ["DZFcCpkb"], ["DOokNXxbBUFek"]⟩,
  ⟨["knda", "kannada"], ["ETcnbdbxbkbfcjbdbehcfdbeckbd"], ["DNtcrcHJebbcgbxbbbCASxg"]⟩,
  ⟨["kana", "katakana"], ["SKvDmcdJgqIaBvbDkCZHekbBtCOUcebhbcbbLbdByboe"], [
    "BDtbBdbQZtdekbnqgbbecDnedbDmcCZTgcKwfkbBtc"]⟩,
  ⟨["kawi"], ["EERwrbBpdBd"], []⟩,
  ⟨["kali", "kayahli"], ["CMAaBubb"], ["CMBub"]⟩,
  ⟨["khar", "kharoshthi"], ["DWTcebcfibdbBdcdekhj"], []⟩,
  ⟨["kits", "khitansmallscript"], ["FJIibKGxScBpb"], []⟩,
  ⟨["khmr", "khmer"], ["IXkDqckgkSsBg"], []⟩,
  ⟨["khoj", "khojki"], ["DZTwsbBv"], ["EDikCHOik"]⟩,
  ⟨["sind", "khudawadi"], ["EAAqChfk"], ["DOmcCIDmk"]⟩,
  ⟨["krai", "kiratrai"], ["FIIiCg"], []⟩,
  ⟨["laoo", "lao"], ["FMvcbbbfbybbbxcfbbbhbkce"], []⟩,
  ⟨["latn", "latin"], [
    "CnBagBaBvbpbfxbBfbRhBnfJXbBmgBxfefnbCsCnJwOfbnbqnFlcgbBbbrBpECtBgBULmDydDeupBFkBrbjbeBEDq",
    "hBOkBagBaDCfgbBqbjDDNpBfgg"], [
    "HbbTwbkbbdbbjbbbBmpbcbbpdhcbcBmbfbenKrcBVecCXkbEXwbVubHkbEZmbBTUmiVeb"]⟩,
  ⟨["lepc", "lepcha"], ["KPsCedpdd"], []⟩,
  ⟨["limb", "limbu"], ["JMeBfbmemebdm"], ["DOnb"]⟩,
  ⟨["lina", "lineara"], ["DVFsLzjwki"], ["DTItBt"]⟩,
  ⟨["linb", "linearb"], ["DSYqmbBabtbcbpcoBiEt"], ["DTImdeBtdj"]⟩,
  ⟨["lisu"], ["CKKuBwBUMab"], ["BAybqbRDkc"]⟩,
  ⟨["lyci", "lycian"], ["DTXgBd"], ["MGob"]⟩,
  ⟨["lydi", "lydian"], ["DWKmBafb"], ["HbbRFtb"]⟩,
  ⟨["mahj", "mahajani"], ["DZNcBn"], ["HbbDHkmCIDck"]⟩,
  ⟨["maka", "makasar"], ["EEQqz"], []⟩,
  ⟨["mlym", "malayalam"], ["EYanbdbBzbdbgeqcBa"], ["DNtcrcHJobxbCASzd"]⟩,
  ⟨["mand", "mandaic"], ["DDgBccb"], ["CJob"]⟩,
  ⟨["mani", "manichaean"], ["DXAmBnem"], ["CJob"]⟩,
  ⟨["marc", "marchen"], ["EDSqBgcwbo"], []⟩,
  ⟨["gonm", "masaramgondi"], ["EDYehbcbBsdbbcbjik"], ["DOmc"]⟩,
  ⟨["medf", "medefaidrin"], ["FISeDn"], []⟩,
  ⟨["mtei", "meeteimayek"], ["CMSmxHtBuck"], []⟩,
  ⟨["mend", "mendekikakui"], ["HCUyHpcq"], []⟩,
  ⟨["merc", "meroiticcursive"], ["DWPkyeucBu"], []⟩,
  ⟨["mero", "meroitichieroglyphs"], ["DWOeBg"], ["MGrb"]⟩,
  ⟨["plrd", "miao"], ["FIZoCxeCfhr"], []⟩,
  ⟨["modi"], ["EBHgCrlk"], ["CLSak"]⟩,
  ⟨["mong", "mongolian"], ["JCiccbbugDlhBrDSCbn"], ["JCkcbbDCjbFZtcfe"]⟩,
  ⟨["mroo", "mro"], ["FHEuBfbkec"], []⟩,
  ⟨["mult", "multani"], ["DZYuhbbbebpbl"], ["DYkk"]⟩,
  ⟨["mymr", "myanmar"], ["GBoGeCGAyBfDtBgBPAmu"], ["CMBub"]⟩,
  ⟨["nbat", "nabataean"], ["DWEiBfij"], []⟩,
  ⟨["nagm", "nagmundari"], ["HBPoBq"], []⟩,
  ⟨["nand", "nandinagari"], ["ECQyicBucl"], ["DNtbscBImkGBhbibhbCASrg"]⟩,
  ⟨["newa"], ["EANoDobf"], ["DNtcHKcbbcjbgbbbbb"]⟩,
  ⟨["talu", "newtailue"], ["JRcBseBagldc"], []⟩,
  ⟨["nkoo", "nko"], ["CYiChcd"], ["CHobobdbDPPec"]⟩,
  ⟨["nshu", "nushu"], ["FJIfbYVmPg"], []⟩,
  ⟨["hmnp", "nyiakengpuachuehmong"], ["HAEaBtdockec"], []⟩,
  ⟨["ogam", "ogham"], ["INoBd"], []⟩,
  ⟨["olck", "olchiki"], ["KSuBw"], []⟩,
  ⟨["hung", "oldhungarian"], ["DXRsBznBzhg"], ["MGobcbFGdbpb"]⟩,
  ⟨["ital", "olditalic"], ["DUCeBkjd"], []⟩,
  ⟨["narb", "oldnortharabian"], ["DWYaBg"], []⟩,
  ⟨["perm", "oldpermic"], ["DUFgBr"], ["HbbWmbfdkbOdb"]⟩,
  ⟨["xpeo", "oldpersian"], ["DUIiBkeo"], []⟩,
  ⟨["sogo", "oldsogdian"], ["DYQiBo"], []⟩,
  ⟨["sarb", "oldsoutharabian"], ["DWWuBg"], []⟩,
  ⟨["orkh", "oldturkic"], ["DXMuCv"], ["MGobFGfb"]⟩,
  ⟨["ougr", "olduyghur"], ["DYUqBa"], ["CJobDUSvb"]⟩,
  ⟨["onao", "olonal"], ["HBZkBreb"], ["DOmc"]⟩,
  ⟨["orya", "oriya"], ["EEjdbicccwbhbcbfcjcccdhdecbfcs"], ["DNtcrcHJobxb"]⟩,
  ⟨["osge", "osage"], ["DUSuBkeBk"], ["BDpbcbgbCyb"]⟩,
  ⟨["osma", "osmanya"], ["DUQyBeck"], []⟩,
  ⟨["hmng", "pahawhhmong"], ["FHMeCskkbhbvft"], []⟩,
  ⟨["palm", "palmyrene"], ["DWDcBg"], []⟩,
  ⟨["pauc", "paucinhau"], ["EDCaCf"], []⟩,
  ⟨["phag", "phagspa"], ["CLSqCe"], ["JCkcbbDCjbFZub"]⟩,
  ⟨["phnx", "phoenician"], ["DWJgBcdb"], []⟩,
  ⟨["phlp", "psalterpahlavi"], ["DXHwshemh"], ["CJob"]⟩,
  ⟨["copt", "coptic", "qaac"], ["BMgoPJkEmfh"], ["HbbWmbdcbbEecQDtbDCPcBc"]⟩,
  ⟨["zinh", "inherited", "qaai"], [
    "BDoEiKrcRklBabBCieGOxBucmSqdbnbhebgbdcHqCmUecHmBhFTxeEdcCZUjqqoBLnbIsbGFabCTCuBucxUydrich",
    "BeeBTLHiJg"], [
    "BDopbcbbpdhcbcqbcbsbfbenKrcRklBabBCicHJxdbnbhebgbdcHqcCcbbbBDdbFTxeEdcDBQjbGFab"]⟩,
  ⟨["rjng", "rejang"], ["CMBwBklb"], []⟩,
  ⟨["runr", "runic"], ["IOuCxdl"], ["IRrd"]⟩,
  ⟨["samr", "samaritan"], ["DAuBucp"], ["RMvb"]⟩,
  ⟨["saur", "saurashtra"], ["CLVcCsim"], []⟩,
  ⟨["shrd", "sharada"], ["DZOyDsDPoi"], ["DNtbHKfbbbcccbjbcbCATegcb"]⟩,
  ⟨["shaw", "shavian"], ["DUPcBw"], ["Hbb"]⟩,
  ⟨["sidd", "siddham"], ["EBCiCccBm"], []⟩,
  ⟨["sidt", "sidetic"], ["DWLsBa"], []⟩,
  ⟨["sgnw", "signwriting"], ["GWTkZcpfbp"], []⟩,
  ⟨["sinh", "sinhala"], ["FCzdbsdybjbbchdbegbbbigkcdDULgu"], ["DOmcHKmb"]⟩,
  ⟨["sogd", "sogdian"], ["DYSeBq"], ["CJob"]⟩,
  ⟨["sora", "sorasompeng"], ["DZIezhk"], []⟩,
  ⟨["soyo", "soyombo"], ["ECXsDf"], []⟩,
  ⟨["sund", "sundanese"], ["KKuCmJwi"], []⟩,
  ⟨["sunu", "sunuwar"], ["EDLwBiok"], ["BDocbbjbcbBcbdb"]⟩,
  ⟨["sylo", "sylotinagri"], ["CLQeBt"], ["DOmcEyk"]⟩,
  ⟨["syrc", "syriac"], ["CQyobCicdKml"], ["BDrcccbbydhcbcBCcboccbBgbklBabIXrbbb"]⟩,
  ⟨["tglg", "tagalog"], ["ISmwjb"], ["IUnc"]⟩,
  ⟨["tagb", "tagbanwa"], ["IWenbdbc"], ["IUnc"]⟩,
  ⟨["tale", "taile"], ["JPgBecf"], ["BDocfcdbEZzk"]⟩,
  ⟨["lana", "taitham"], ["JXgClbBdclgkgo"], []⟩,
  ⟨["tavt", "taiviet"], ["CMOuCpyf"], []⟩,
  ⟨["tayo", "taiyo"], ["HCIqBfbwic"], []⟩,
  ⟨["takr", "takri"], ["EBMeCggk"], ["DOmcCIDmk"]⟩,
  ⟨["taml", "tamil"], ["EJicbgddbedcbbbcdcdddmefddbecbgbovEALhBynb"], [
    "DNtcrcHJobCBBkbBOEfbbbCdc"]⟩,
  ⟨["tnsa", "tangsa"], ["FHGqDbbk"], []⟩,
  ⟨["tang", "tangut"], ["FJIebBfKFwTsBfDtEl"], ["SEaqTbb"]⟩,
  ⟨["telu", "telugu"], ["EOenbdbxbqcjbdbehcbdbcceckhj"], ["DNtcrcHJjcbbbbxb"]⟩,
  ⟨["thaa", "thaana"], ["CVwBy"], ["CHoboccbCmkDPTgbkb"]⟩,
  ⟨["thai"], ["FHxCgfBc"], ["BAybBabBrbBtb"]⟩,
  ⟨["tibt", "tibetan"], ["FRsCubBkeBnbBkbpbhec"], ["SEye"]⟩,
  ⟨["tfng", "tifinagh"], ["RCyCehcob"], ["BDqbbbbezb"]⟩,
  ⟨["tirh", "tirhuta"], ["EASmCuik"], ["DNtcrcHJjbmbpbCASzk"]⟩,
  ⟨["todr", "todhri"], ["DVDgCa"], ["BDpbcbcbjbbbCwb"]⟩,
  ⟨["tols", "tolongsiki"], ["EEEyBsek"], []⟩,
  ⟨["toto"], ["HATkBf"], ["BAyb"]⟩,
  ⟨["tutg", "tulutigalari"], ["EAIqkbbcbbBmbkbbcbbebkbcic"], ["EXakGBqbbbCASxgHfb"]⟩,
  ⟨["ugar", "ugaritic"], ["DUHcBebb"], []⟩,
  ⟨["vaii", "vai"], ["CKMqLo"], []⟩,
  ⟨["vith", "vithkuqi"], ["DVAelbpbhbcblbpbhbc"], []⟩,
  ⟨["wcho", "wancho"], ["HAVgCgfb"], []⟩,
  ⟨["wara", "warangciti"], ["ECHcDfmb"], []⟩,
  ⟨["yezi", "yezidi"], ["DYLkBqbdcc"], ["CHobobdbCmk"]⟩,
  ⟨["yiii", "yi"], ["CIPkBSvdCd"], ["SErcfkciIpbDAEff"]⟩,
  ⟨["zanb", "zanabazarsquare"], ["ECUqCu"], []⟩]

def findScript? (name : String) : Option Script :=
  scriptTable.find? fun e => e.names.contains name

def script? (name : String) : Option Bands := (findScript? name).map fun e => unpack e.packed

def scriptExtension? (name : String) : Option Bands :=
  (findScript? name).map fun e => (unpack e.packed).symmDiff (unpack e.extension)

end MailIndex.Unicode
