import MailIndex.Unicode.Category

namespace MailIndex.Unicode

open Text

def binaryTable : List DerivedSet := [
  ⟨["asciihexdigit", "ahex"], [], ["BwkhgBag"]⟩,
  ⟨["alphabetic", "alpha"], ["l", "nl"], [
    "BGfbBdnWeobbbcbcbbCulBwnbhqbDxheeccebBjbBeqDylDxcdjbdbeEcbCimdhguCcccpbcfdkcBddCghcccckbk",
    "cBddCgfecccebBecdbldCgibdbcvcwdedCghccccjckcBebChfddbdkbBofCfhbdbdiclcBddCghbdbdiclcpbmeC",
    "ghbdbdkbkcBddCxgbbbiscCjbchsbDvbcgbcqbGhtjlbBkEgmbbcexeedbdchdenmbbkeCLocBecBecBecCotHgcB",
    "ibEomejIofCfkcuCwcldBxfBwpCidBejccCflBytPwBiCOnCaDKgBgBTQaiBicNqbibxfDkcByqbbCfbBmfBcmBte",
    "BwmBlbCpombicBtdBybbdccfbBsffbJdiBDZvbDEdfCMgdbcfeBEieCnbMjcCzdJzdCboBtcldBtjjbCjdBkmscCf",
    "dBwnocDojcbgbcbGbkxeCghcccckbkcDgjbbcbbebcDznbdEcsJdhchBdcDepbbEclDzoJxnJngbcccdbbbFmhcge",
    "bBckBqfbeslBuoHsiHribhDfwboEsgdbbcbdbbdbCofbcbeNkejcbbBwhddYYnrFJcbbCdheDpcBDAybNKjhbrchb",
    "cbfDwbCKhbcbhcfbWvbCZwBagBagBa"]⟩,
  ⟨["bidicontrol", "bidic"], [], ["CIebJVlcBafCde"]⟩,
  ⟨["caseignorable", "ci"], ["mn", "me", "cf", "lm", "sk"], [
    "BnbgblbEubBBrbSdbFsbJXjckbcbDGBbbCkbcbGvbgblb"]⟩,
  ⟨["cased"], ["lc"], [
    "GobpbThjhcBefDsbCabFCzbEPzClnbBiBlBAnbnbqnHnBgBFqCaCWocBUGkcIcbEyedcBHiejbBIWsbcdbBqbjDDZ",
    "hCkGJaBagBagBa"]⟩,
  ⟨["changeswhencasefolded", "cwcf"], ["lu", "lt"], [
    "GzbBpbEbbCbbRlbEubnhzcdbPlbFIuDicgDFujUjcIuiiiiikdcbkdcbBqdcbKgbebddcdcbdfgbdbdcccbbkcfbB",
    "aqBGgBaBYZoDcBEAihmfDEDsBaBaBaBaBaBabbccbcccebiBaBaBacbecibhBbcbebfbbdhBbBaBaBaBaBaBaBaBa",
    "BaBaBaBezBhzBhzBhzBhzBhb"]⟩,
  ⟨["changeswhencasemapped", "cwcm"], ["lc"], [
    "MabDgbBccobdbDubsgBbbcbbbcdcbebfcbbccbhbcbbcdgfbbchcrFtbFkdBnbNrbBnbIXbBsClncdbqbmJxcbbXm",
    "bebckbbdfgbdbdcbdbcebceffwBgBFqCaCWdbcbcfEabBUIdcClivbgbzbCwbBFpBjbhfjEIIhDhbCtbccbcccebm",
    "bbbhbCnbecibhbBcbebfbbdhbNcczbzbBfbzbBfbzbBfbzbBfbzbiCSykbugg"]⟩,
  ⟨["changeswhenlowercased", "cwl"], ["lu", "lt"], [
    "BLqdLBhbebddcdcbdfgbdbdcccbbkcfbBaqBGgBaGHHoBaBaBaBaBaBabbccbcccebiBaBaBacbecibhBbcbebfbb",
    "dhBbBaBaBaBaBaBaBaBaBaBaBaBezBhzBhzBhzBhzBhb"]⟩,
  ⟨["changeswhentitlecased", "cwt"], ["ll"], [
    "MabDgbBccobdbfbcbcbBmbBvbsgBbbcbbbcdcbebfcbbccbhbcbbcdgfbbchcrFtbHabNrbBnbEHbBrcdEOeBsCln",
    "cdbqbmJxcbbXubdcdbBbbebebccieBmqBGqBaCWdbcbcfEabBUIdcClivbgbzbCwbBFpBjbhfjEIJhBaBahbsBaBa",
    "BaebbbhblBaBaBaBaBaBaBaBaBaBaBaBaBaBaBaBaBaBcBczbgBazbgBazbgBazbgBazbgbbCSykbugg"]⟩,
  ⟨["changeswhenuppercased", "cwu"], ["ll"], [
    "MabDgbBccobdbgbcbcbBmbBubsgBbbcbbbcdcbebfcbbccbhbcbbcdgfbbchcrFtbHabNrbBnbIXbBsClncdbqbmJ",
    "xcbbIyiiiiimbpbBvbKjbdcdbBbbebebccieBmqBGqBaCWdbcbcfEabBUIdcClivbgbzbCwbBFpBjbhfjEIJhBaBa",
    "hbsBaBaBaebbbhblBaBaBaBaBaBaBaBaBaBaBaBaBaBaBaBaBaBcBczbgBazbgBazbgBazbgBazbgbbCSykbugg"]⟩,
  ⟨["dash"], ["pd"], ["MGhbBnbpbPab"]⟩,
  ⟨["defaultignorablecodepoint", "di"], [], [
    "GrbZxbBBobEGwcCKhcDhfDApfBafBxqGKybCZMpqJfbGebDbjCTLneHWxiBTKZlGBo"]⟩,
  ⟨["deprecated", "dep"], [], ["MrbBYvbDKtbbbDCjcDIjgBAvcBZRYkb"]⟩,
  ⟨["diacritic", "dia"], [], [
    "DqbbbCtbgbebccTjGdbifgrcebjcJtfIbbCdBtbbbcbcbbFbiecFececddCpBbDnlCglBicEwiBpkqBcCjbqbdeBc",
    "bCwbqbEgbqbEgbqbBvdCibqbhbEpbEgbqbEgbqbEfcqbEubEhbmgbbEdbnfCxcBbbbbbbecCodbcCkbEibbcBocef",
    "zhbbkcBBddBKmcBebFsljbNjdLgbuicbBwpcldpcmCubpbBmjCccCgblcCocCmgDezebgbcdByClBwBkfmBllRdbb",
    "dldndndncEXkdMfbTmgEbeDrbBSMkbmcbbBccDecoBiDydDybgcmbBlbFvbBbsCfeBkbDrbmbBkbFtdCneBzbDwfj",
    "dEycBDZsbBDpqKkbbbBvbBtcCpbBDkbBTngbBqbjYndebGjcVzgBmbBafPgbcdCslBxeHkbBpbCucEqcCkbCybjdE",
    "acGwcDccqbyhdfDldbcncDrbdbEtcJrcEwbEocElbKjcJycebGabDfbsbDdbQfbJybbcDdbCnbNvcxbHYapQZpbDS",
    "afChhVscVarDccYGcebhbcLThBucxUyddgiichBeeFMwCkHmhOlbCjeBDmcBCihEfdbd"]⟩,
  ⟨["emoji"], [], [
    "BjbgbfkEhbebLYrbmbIibwbDmgpcOdcmbGkbzledHrbIxckbjbCgebfjbcbcccbebcbbccbdbdcidfbbbfmlccbbc",
    "bbsbccsgbbbcdcfbcceclcfccbfcbbbcucfgbecbebcbcgbbcbbbbbgbdbgbkcpbcbebbbedbblcBwdjbobobOicR",
    "vdtcBzbebBVubmbXdbbbGMRqbHubGecmcobckCxBabcxbubcjvcGsBicEiccbdcDfcdbKdbCllgbyhccimbcecbec",
    "nccbicjbfdmdidcbbbebgbdbgDiBwCsficedkdbbcdbckItmebKxBvbkbHdEindldCfbbeqcmek"]⟩,
  ⟨["emojicomponent", "ecomp"], [], ["BjbgbfkMBjbIfbDFTrbDOIwBaTnfCEaeBSVUqDs"]⟩,
  ⟨["emojimodifier", "emod"], [], ["HHIxf"]⟩,
  ⟨["emojimodifierbase", "ebase"], [], [
    "OLhbIlbqeGSJvbCidcbcdEncclvtdbedbdhbbbybHtcebvbecGsddfDfbqdjblbWdbcbiigbjkcdCebCjcbcbbrdb",
    "nIvdBqj"]⟩,
  ⟨["emojipresentation", "epres"], [], [
    "NHqcHxedbcbUbcvcBymBrbtbnbicrcfcibfbvbhcbbebcbhbecBcbBjbbbedbbCjdybobBHbcBzbebGPLebHubHib",
    "ckCxBabbybubcfbdvcGsBhmjbCsbwmBrefmrdbdCtbbbHfcClnebysbBacnbDiDhBwCsgbddcedelchjItmebKxBv",
    "bkbHdEindldCfbbeqcmek"]⟩,
  ⟨["extendedpictographic", "extpict"], [], [
    "GnbebLYrbmbIibwbDmgpcOdcmbGkbzledHrbIxckbjbCgebfjbcbcccbebcbbccbdbdcidfbbbfmlccbbcbbsbccs",
    "gbbbcdcfbcceclcfccbfcbbbcucfgbecbebcbcgbbcbbbbbgbdbgbkcpbcbebbbedbblcBwdjbobobOicRvdtcBzb",
    "ebBVubmbXdbbbGMRqbBneDwmpcpbocBlkEicmcobcktCeBbpkbubcjbejxgHgcEiccbdcDfcdbefJubCllgbyhcci",
    "mbcecbecnccbicjbfdmdidcbbbebgbdbgDiBwCsficrdbbgcnIkBmmeCeikgBoiBecmecojBnmBvbkbHdDkioFqJw",
    "BNi"]⟩,
  ⟨["extender", "ext"], [], [
    "HbbUqcBHubQzbYgbFhbDlbBCybExbDNfbCebXnbPibCqbHKjbBrfDzcDpdBQBubCGsbBLabwbFhbEebvcBFZvbDBk",
    "cCFbbBbbebBVbbLhbEmcTedBVjbBGabBDIecBTkcbbocBQXkcBUfbBGud"]⟩,
  ⟨["graphemebase", "grbase"], ["l", "n", "s", "p", "mc", "zs"], [
    "DRybybNubybDybybIybbbecbcjcDzbybEpbpbDMrbBebBNkbfbbbfcDxbCtcHRecBTWtbEebBGNlcGWmbEmbKebob",
    "jbDsbjbcbbdfbIqbmbJhbKcbYjbmbCHfbBEOkcBKXncgg"]⟩,
  ⟨["graphemeextend", "grext"], ["mn", "me"], [
    "DRybybNubybDybybIybbbecbcjcDzbybEpbpbDMrbBebBNkbfbbbfcDxbCtcBOibGCvcBTWtbEebBGNlcGWmbEmbK",
    "ebobjbDsbjbcbbdfbIqbmbJhbKcbYjbmbCHfbBEOkcBKXncggBTLAzDs"]⟩,
  ⟨["hexdigit", "hex"], [], ["BwkhgBagDSLlkhgBag"]⟩,
  ⟨["idsbinaryoperator", "idsb"], [], ["SEacckTdb"]⟩,
  ⟨["idstrinaryoperator", "idst"], [], ["SEcc"]⟩,
  ⟨["idcontinue", "idc"], ["l", "nl", "mn", "mc", "nd", "pc"], [
    "HbbBBrbGAjjCLcbCIzcKgbvbEYabXvcDqbDAEjb"]⟩,
  ⟨["idstart", "ids"], ["l", "nl"], ["JHlcDGjbvbEYabXvc"]⟩,
  ⟨["ideographic", "ideo"], [], [
    "SEwczjodBLdJToCmBFBkBHSiOccEcBSIkbnfjKXyBpBgDtElNLlPgBDEiCLFcBgGMocIOccLBlpXyDQwUwCFyHHzf",
    "MOo"]⟩,
  ⟨["joincontrol", "joinc"], [], ["MDoc"]⟩,
  ⟨["logicalorderexception", "loe"], [], ["FKifEtfEDsdcbCCXmccbbc"]⟩,
  ⟨["lowercase", "lower"], ["ll"], [
    "GobpbThjhcBefDsbCabFCzbEPzClnbBiBlBAnbnbqnIdqBGqBaCWocBUGkcIcbEyedcBHiejbBIWsbcdbBqbjDDZh",
    "Ck"]⟩,
  ⟨["math"], ["sm"], [
    "DqbBHxdcbBacccKQybBbdlbBgeycocCnnebdcefsbebckbbdfgbdcccbdbgdeffCxfcebcbcbbbfccecesccbbbhb",
    "bgcLeeGmcbbybrbRdcmjfffcccdfobbbcgycCfbbbBdejcNecBfkPnwCleBgcDCLfbbbebIdbbbDCOvDhbCtbccbc",
    "ccebmbbbhbCnbecibhbBcbebfbbdhbNcczbzbBfbzbBfbzbBfbzbBfbzbicByIIqebBbbcbbcbbkbebbbbgbebbbb",
    "bbdbcbbcbbbbbbbbbbcbbcebhbebebbbkbrfdbfbr"]⟩,
  ⟨["noncharactercodepoint", "nchar"], [], [
    "DSDcBgUgcDSYocDSYocDSYocDSYocDSYocDSYocDSYocDSYocDSYocDSYocDSYocDSYocDSYocDSYocDSYocDSYoc"]⟩,
  ⟨["patternsyntax", "patsyn"], [], [
    "BhpkhBaebbBaeBihbbbcbbbcebebdbxbBfbLUeyipctbkLtBBsGeYgBeBRoTsEyOvdezpbCZQzcKbc"]⟩,
  ⟨["patternwhitespace", "patws"], [], ["jfsbDwbLYmcyc"]⟩,
  ⟨["quotationmark", "qmark"], [], ["BibebFbbpbLWuizcFIdbRpendDABpeHhbebDmc"]⟩,
  ⟨["radical"], [], ["RPwBabDlmIg"]⟩,
  ⟨["regionalindicator", "ri"], [], ["HGOkBa"]⟩,
  ⟨["sentenceterminal", "sterm"], [], [
    "BhbmbqbCAbbFrdGybBrdJmbCjbbbdcLhcCPwcBEkbecBDtbHqcGbcBtbfbMccNqeGgckcccBddHfcCncBJwbxcjdE",
    "UxdLubnbwcQnbBSHwbKkcItbdbOscDicDrbFwcFrdFocJpbBFCwbccChbdcGnbmbqbCnbEDwcBXdfBseHhcEneExd",
    "EzcgbqcDkcbcEebLmcEncOjcfpEbcJpdTxbbbJrcDjcQecBAqcCwcBCMbcFdbCnclbVhcLkbBDOgbLImb"]⟩,
  ⟨["softdotted", "sd"], [], [
    "EbcHobKvbBebCabubMibDubbbJMnbBzbnbdbFcbGbbQfbIgcEGgbGELhcBycBycBycBycBycBycBycBycBycBycBy",
    "cBycDFybLtcBab"]⟩,
  ⟨["terminalpunctuation", "term"], [], [
    "BhbkbbblcdbBFybibTtbCfbCubobbdGybBrlbbJbcCcgbiBfbKbcBWucGqbegLzcBEjiBDtbEudCtcGbddbBneccM",
    "ccNqeGgckcbdBddHffCkcBJwbxcjdEUxdLubnbebkbbcdcQmcBSHvcKjdItfOscDicDrbFvdFrdExbqcJpbBFCwbc",
    "cCfdbeGnbkbbblcdbCnbcbBPqbBwbBSobHrbLycFwgCqgDleBKqfBseHhhEieExdEzcgbqcDkfEebLmcEndmcNued",
    "pEbcJpdTxbbbJrcDjcecPydBtbYvcCwcBYxfBAMzcFdbCndkbVhcLjcBDOgbLIle"]⟩,
  ⟨["unifiedideograph", "uideo"], [], [
    "TSaJToCmBFBkBICscbbbckbbbbccdDVEcCLFcBgGMocIOccLBlpXyGRqHHzfMOo"]⟩,
  ⟨["uppercase", "upper"], ["lu"], ["MQqqBGgBaGSIyBagBagBa"]⟩,
  ⟨["variationselector", "vs"], [], ["JCtdbbDJCaqBWNKyJg"]⟩,
  ⟨["whitespace", "wspace", "space"], ["zs"], ["jfEpbLZmc"]⟩,
  ⟨["xidcontinue", "xidc"], ["l", "nl", "mn", "mc", "nd", "pc"], [
    "HbbBBebmbGAjjCLcbCIzcKgbvbEYabBBnbCZAogPqcEmbbbbbbbbbbbbbbbIwb"]⟩,
  ⟨["xidstart", "xids"], ["l", "nl"], ["BIgbEBobExbDSrcDGjbvbEYabDACcgPqcEmbbbbbbbbbbbbbbbLbc"]⟩,
  ⟨["idsunaryoperator", "idsu"], [], ["SEoc"]⟩,
  ⟨["hyphen"], [], ["BtbExbBVwbGZzbDBdcFIbbBClbCZUlbGnbDjb"]⟩,
  ⟨["prependedconcatenationmark", "pcm"], [], ["CHcgIhbBxbOucDcbDVXybpb"]⟩,
  ⟨["idcompatmathstart"], [], ["MWwbebwbGJJebzbBfbzbBfbzbBfbzbBfbzb"]⟩,
  ⟨["idcompatmathcontinue"], [], ["GwcfbMAgbdlbpOhbebwbGJJebzbBfbzbBfbzbBfbzbBfbzb"]⟩,
  ⟨["otherlowercase", "olower"], [], [
    "GobpbThjhcBefDsbCabFCzbEPzClnbBiBlBAnbnbqnIdqBGqBaCWocBUGkcIcbEyedcBHiejbBIWsbcdbBqbjDDZh",
    "Ck"]⟩,
  ⟨["otheruppercase", "oupper"], [], ["MQqqBGgBaGSIyBagBagBa"]⟩,
  ⟨["otheralphabetic", "oalpha"], ["m"], [
    "BDoDvLchKdBfGmbFecjdDflGejjbBactbBrdCiiBqkmcigCybqbdeDzbqbBwbCjbqbEgbqbBvdCibqbhbEpbEgbqb",
    "EgbqbEfcqbEubEugbbEdbnfbbCvcBbbbbbbecCqbbcCkbEibbcBEwdBKmcBebExctljbBtdbbLldLgbuicbBwpcld",
    "pcmCubpbBmjCccCgblcCpbFwdbvebgbcdHqtBilBBsBhEOcdFlbBAggEbcBSQeejcEkcKqbBlbFvbBbsCfdBlbDrb",
    "mbJubbbCabJlcBFCcqqqBLlbIsbCUhdebGjcYtePjdCslBxeHkbBpbobCfcEqcCkbCybieEacGwcDccqbyhdfDldb",
    "bocDrbdbxbDvcJrcEwbEocElbKjcJycebGabDecsbDccQfbJybbcDdbQjcxbHXtbgpQZpbDSafChhBUbbBDBkbGZa",
    "BucxUwfdgiichBeeFsdCYdCdeByibobwfbpCMahOlbCjeToeJucBCihEfdbdBTCIvJg"]⟩,
  ⟨["othermath", "omath"], [], [
    "DqbBHxdcbBacccKQybBbdlbBgeycocCnnebdcefsbebckbbdfgbdcccbdbgdeffCxfcebcbcbbbfccecesccbbbhb",
    "bgcLeeGmcbbybrbRdcmjfffcccdfobbbcgycCfbbbBdejcNecBfkPnwCleBgcDCLfbbbebIdbbbDCOvDhbCtbccbc",
    "ccebmbbbhbCnbecibhbBcbebfbbdhbNcczbzbBfbzbBfbzbBfbzbBfbzbicByIIqebBbbcbbcbbkbebbbbgbebbbb",
    "bbdbcbbcbbbbbbbbbbcbbcebhbebebbbkbrfdbfbr"]⟩,
  ⟨["othergraphemeextend", "ogrext"], [], [
    "DRybybNubybDybybIybbbecbcjcDzbybEpbpbDMrbBebBNkbfbbbfcDxbCtcBOibGCvcBTWtbEebBGNlcGWmbEmbK",
    "ebobjbDsbjbcbbdfbIqbmbJhbKcbYjbmbCHfbBEOkcBKXncggBTLAzDs"]⟩,
  ⟨["otheridstart", "oids"], [], ["JHlcDGjbvbFVwc"]⟩,
  ⟨["otheridcontinue", "oidc"], [], ["HbbBBrbGAjjCLcbCIzcGKrbDAEjb"]⟩,
  ⟨["otherdefaultignorablecodepoint", "odi"], [], [
    "BGpbFIlcCKhcDHnbGLibDACpbDbjBWMIhbbBeDsEyJgFIm"]⟩]

def binary? (name : String) : Option Bands := findDerived? binaryTable name

def alphabetic : Bands := (binary? "alphabetic").getD .none

def isAlphabetic (c : Char) : Bool := inBands alphabetic c.toNat

def decimalDigits : Bands := categoryUnion ["nd"]

def wordCharacters : Bands :=
  Bands.unions
    [alphabetic, categoryUnion ["mn", "mc", "me", "nd", "pc"], (binary? "joincontrol").getD .none]

end MailIndex.Unicode
