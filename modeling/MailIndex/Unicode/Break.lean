import MailIndex.Unicode.Category

namespace MailIndex.Unicode

open Text

def graphemeBreakTable : List DerivedSet := [
  ⟨["cn", "control"], ["cf"], ["akbcbsDrBhCAygIhbBxbOucDcbIUbcBacChbDGRajGJcbpbBWFYobbJuJgFIm"]⟩,
  ⟨["cr"], [], ["nb"]⟩,
  ⟨["ex", "extend"], ["mn", "me"], [
    "DRybybNubybDybybIybbbecbcjcDzbybEpbpbDMrbBebBNkbfbbbfcDxbCtcBOibGCvcBTWtbEebBGNlcGWmbEmbK",
    "ebobjbDsbjbcbbdfbIqbmbJhbKcbDzbUjbmbCHfbBEOkcBKXncggNCafBSXYuDs"]⟩,
  ⟨["l"], [], ["GLkDsCFOqBd"]⟩,
  ⟨["lf"], [], ["kb"]⟩,
  ⟨["lv"], [], [
    "CNDobBbbBbbBbbBbbBbbBbbBbbBbbBbbBbbBbbBbbBbbBbbBbbBbbBbbBbbBbbBbbBbbBbbBbbBbbBbbBbbBbbBbb",
    "BbbBbbBbbBbbBbbBbbBbbBbbBbbBbbBbbBbbBbbBbbBbbBbbBbbBbbBbbBbbBbbBbbBbbBbbBbbBbbBbbBbbBbbBb",
    "bBbbBbbBbbBbbBbbBbbBbbBbbBbbBbbBbbBbbBbbBbbBbbBbbBbbBbbBbbBbbBbbBbbBbbBbbBbbBbbBbbBbbBbbB",
    "bbBbbBbbBbbBbbBbbBbbBbbBbbBbbBbbBbbBbbBbbBbbBbbBbbBbbBbbBbbBbbBbbBbbBbbBbbBbbBbbBbbBbbBbb",
    "BbbBbbBbbBbbBbbBbbBbbBbbBbbBbbBbbBbbBbbBbbBbbBbbBbbBbbBbbBbbBbbBbbBbbBbbBbbBbbBbbBbbBbbBb",
    "bBbbBbbBbbBbbBbbBbbBbbBbbBbbBbbBbbBbbBbbBbbBbbBbbBbbBbbBbbBbbBbbBbbBbbBbbBbbBbbBbbBbbBbbB",
    "bbBbbBbbBbbBbbBbbBbbBbbBbbBbbBbbBbbBbbBbbBbbBbbBbbBbbBbbBbbBbbBbbBbbBbbBbbBbbBbbBbbBbbBbb",
    "BbbBbbBbbBbbBbbBbbBbbBbbBbbBbbBbbBbbBbbBbbBbbBbbBbbBbbBbbBbbBbbBbbBbbBbbBbbBbbBbbBbbBbbBb",
    "bBbbBbbBbbBbbBbbBbbBbbBbbBbbBbbBbbBbbBbbBbbBbbBbbBbbBbbBbbBbbBbbBbbBbbBbbBbbBbbBbbBbbBbbB",
    "bbBbbBbbBbbBbbBbbBbbBbbBbbBbbBbbBbbBbbBbbBbbBbbBbbBbbBbbBbbBbbBbbBbbBbbBbbBbbBbbBbbBbbBbb",
    "BbbBbbBbbBbbBbbBbbBbbBbbBbbBbbBbbBbbBbbBbbBbbBbbBbbBbbBbbBbbBbbBbbBbbBbbBbbBbbBbbBbbBbbBb",
    "bBbbBbbBbbBbbBbbBbbBbbBbbBbbBbbBbbBbbBbbBbbBbbBbbBbbBbbBbbBbbBbbBbbBbbBbbBbbBbbBbbBbbBbbB",
    "bbBbbBbbBbbBbbBbbBbbBbbBbbBbbBbbBbbBbbBbbBbbBbbBbbBbbBbbBbbBbbBbbBbbBbbBbbBbbBbbBbbBbbBbb",
    "BbbBbbBbbBbbBbbBbbBbbBbbBbbBbbBbbBbbBbbBbb"]⟩,
  ⟨["lvt"], [], [
    "CNDpBbbBbbBbbBbbBbbBbbBbbBbbBbbBbbBbbBbbBbbBbbBbbBbbBbbBbbBbbBbbBbbBbbBbbBbbBbbBbbBbbBbbB",
    "bbBbbBbbBbbBbbBbbBbbBbbBbbBbbBbbBbbBbbBbbBbbBbbBbbBbbBbbBbbBbbBbbBbbBbbBbbBbbBbbBbbBbbBbb",
    "BbbBbbBbbBbbBbbBbbBbbBbbBbbBbbBbbBbbBbbBbbBbbBbbBbbBbbBbbBbbBbbBbbBbbBbbBbbBbbBbbBbbBbbBb",
    "bBbbBbbBbbBbbBbbBbbBbbBbbBbbBbbBbbBbbBbbBbbBbbBbbBbbBbbBbbBbbBbbBbbBbbBbbBbbBbbBbbBbbBbbB",
    "bbBbbBbbBbbBbbBbbBbbBbbBbbBbbBbbBbbBbbBbbBbbBbbBbbBbbBbbBbbBbbBbbBbbBbbBbbBbbBbbBbbBbbBbb",
    "BbbBbbBbbBbbBbbBbbBbbBbbBbbBbbBbbBbbBbbBbbBbbBbbBbbBbbBbbBbbBbbBbbBbbBbbBbbBbbBbbBbbBbbBb",
    "bBbbBbbBbbBbbBbbBbbBbbBbbBbbBbbBbbBbbBbbBbbBbbBbbBbbBbbBbbBbbBbbBbbBbbBbbBbbBbbBbbBbbBbbB",
    "bbBbbBbbBbbBbbBbbBbbBbbBbbBbbBbbBbbBbbBbbBbbBbbBbbBbbBbbBbbBbbBbbBbbBbbBbbBbbBbbBbbBbbBbb",
    "BbbBbbBbbBbbBbbBbbBbbBbbBbbBbbBbbBbbBbbBbbBbbBbbBbbBbbBbbBbbBbbBbbBbbBbbBbbBbbBbbBbbBbbBb",
    "bBbbBbbBbbBbbBbbBbbBbbBbbBbbBbbBbbBbbBbbBbbBbbBbbBbbBbbBbbBbbBbbBbbBbbBbbBbbBbbBbbBbbBbbB",
    "bbBbbBbbBbbBbbBbbBbbBbbBbbBbbBbbBbbBbbBbbBbbBbbBbbBbbBbbBbbBbbBbbBbbBbbBbbBbbBbbBbbBbbBbb",
    "BbbBbbBbbBbbBbbBbbBbbBbbBbbBbbBbbBbbBbbBbbBbbBbbBbbBbbBbbBbbBbbBbbBbbBbbBbbBbbBbbBbbBbbBb",
    "bBbbBbbBbbBbbBbbBbbBbbBbbBbbBbbBbbBbbBbbBbbBbbBbbBbbBbbBbbBbbBbbBbbBbbBbbBbbBbbBbbBbbBbbB",
    "bbBbbBbbBbbBbbBbbBbbBbbBbbBbbBbbBbbBbbBbbBb"]⟩,
  ⟨["pp", "prepend"], [], ["CHcgIhbBxbOucDcbBRnbDUGkbpbJkcCVrbbbJobCvgBAybRbb"]⟩,
  ⟨["ri", "regionalindicator"], [], ["HGOkBa"]⟩,
  ⟨["sm", "spacingmark"], [], [
    "DKtbCdbcdiebcBycChcgcccCcbCgdCobCgdibbcCbcCibgcccEkbbcddbdCadCjeCjcCgbcbbcBubocChcfdbdCbc",
    "CycghtcClbExbFicClbGvbjczcBsbCSvbhibcNiecdecbgIqcCgbbbvgFpbCfeCmbBebecClbcdbbCbiicGpbvbCA",
    "ShccbDkcByqFmbBwbBwcecccEhcccybGbbccfbJdcbcbcbbBLXjbbbExbBtdecElbycChbBwdjbobDpddcGqdBfcC",
    "hbbeccccvcDhcpbbcDzdicdbEdcgbbcbbcbJecgecbEjdicbbEfbbcEobKbdjbJofbchbbbFmdieebDgbBdcCkbHt",
    "bdbbbHrbobEcbhbcbIffecbbNmcmbBwcicYZadFJgCd"]⟩,
  ⟨["t"], [], ["GRwDkCWXnBx"]⟩,
  ⟨["v"], [], ["GPcCuCWZwx"]⟩,
  ⟨["zwj"], [], ["MDpb"]⟩]

def wordBreakTable : List DerivedSet := [
  ⟨["cr"], [], ["nb"]⟩,
  ⟨["dq", "doublequote"], [], ["Bib"]⟩,
  ⟨["ex", "extendnumlet"], [], ["DrbMBfbpctbDGAocydJfb"]⟩,
  ⟨["extend"], ["m"], ["MDobDGRhcDONzfBSXYuDs"]⟩,
  ⟨["fo", "format"], ["cf"], ["MDndBZTEgDs"]⟩,
  ⟨["hl", "hebrewletter"], [], ["CFgBbeeDOVybbkbnbfbbbcbcbk"]⟩,
  ⟨["ka", "katakana"], [], ["SGnfDxcdDnbeJgqIaBvbDkCZHeCeCOUcebhbcbbLbdByboe"]⟩,
  ⟨["le", "aletter"], ["l", "nl"], [
    "BBeemggcfhbbbrXedbbBrbCrBbefDBhBwbcmhCgcbbbfbybbbkbcjbcfbbveLcBrubqgeedbdchdenmbCQjCaBjbe",
    "bOhBecflBseBaDiCbDebCMrbBIimbBnEFkczjhfcdgDigdbDmbeJgqTsJToCmBFBkCRgpjcDzcWzfbkkfDtxdbdBy",
    "bbdccfcbbbydEvbBDKmOccEcCpbbkbnbfbbbcbcbkBOgCgIWeBbBlhBHPbfjKXyBpBgDtElMWrebhbcbLfpbBddcb",
    "oeiPgXOmBagBaimckFMkCLFcBgGMocIOccLBlpXyDQwUwCFyHHzfMOo"]⟩,
  ⟨["lf"], [], ["kb"]⟩,
  ⟨["mb", "midnumlet"], [], ["BubMCfckbDGDpbGybgb"]⟩,
  ⟨["ml", "midletter"], [], ["CgbEubBBrbSdbFsbJXybDGBbbCnbHob"]⟩,
  ⟨["mn", "midnum"], [], ["BsbobBGcbUcbFacDqbPfbJFfbDFZvbdbChbdbHbbob"]⟩,
  ⟨["nl", "newline"], [], ["lcEqbLZmc"]⟩,
  ⟨["nu", "numeric"], ["nd"], ["CLfb"]⟩,
  ⟨["ri", "regionalindicator"], [], ["HGOkBa"]⟩,
  ⟨["sq", "singlequote"], [], ["Bnb"]⟩,
  ⟨["zwj"], [], ["MDpb"]⟩,
  ⟨["wsegspace"], [], ["BgbIMhbDPnhbdDgbFXwb"]⟩]

def sentenceBreakTable : List DerivedSet := [
  ⟨["at", "aterm"], [], ["BubMCrbDGDpbHfb"]⟩,
  ⟨["cl", "close"], ["ps", "pe", "pi", "pf"], ["BibebOVzgCNfcedcbGQVyd"]⟩,
  ⟨["cr"], [], ["nb"]⟩,
  ⟨["ex", "extend"], ["m"], ["MDocDGRgcBWMMyDs"]⟩,
  ⟨["fo", "format"], ["cf"], ["MDocBZTEgDs"]⟩,
  ⟨["le", "oletter"], ["lm", "lo", "nl"], [
    "GobpbSgbBajhcBefFtbYibECyBrbeEJwBrcdEeClnbBiBlBAnbnbqnHnBgEEecBUGkcIcbEyedcBHiejbBFXccCZo",
    "bcdbBqbjDDZhCk"]⟩,
  ⟨["lf"], [], ["kb"]⟩,
  ⟨["lo", "lower"], ["ll"], [
    "GobpbSgbBajhcBefFtbFBhBrbeEPwClnbBiBlBAnbnbqnIdqBGqBaCWocBUGkcIcbEyedcBHiejbBIWsbcdbBqbjD",
    "DZhCk"]⟩,
  ⟨["nu", "numeric"], ["nd"], ["CLfc"]⟩,
  ⟨["sc", "scontinue"], [], ["BscmbBYobGscSwbGBxbfbDBecGAubDAAwcbbBdcBdcdbcbkbGmcmbCvb"]⟩,
  ⟨["se", "sep"], [], ["FdbLZmc"]⟩,
  ⟨["sp"], ["zs"], ["jbbc"]⟩,
  ⟨["st", "sterm"], [], [
    "BhbBdbCAbbFrdGybBrdJmbCjbbbdcLhcCPwcBEkbecBDtbHqcHwbfbMccNqeGgckcccBddHfcCncBKucjdFGubnbw",
    "cQnbBSHwbKkcItbdbOscDicDrbFwcFrdFocJpbBFFmcGnbBdbCnbEDwcBXdfBseHhcEneExdEzcgbqcDkcbcEebLm",
    "cEncOjcfpEbcJpdTxbbbJrcDjcQecBAqcCwcBCMbcFdbCnclbVhcLkbBDOgbLImb"]⟩,
  ⟨["up", "upper"], ["lu", "lt"], ["KVgBrcdBToqBGgBaGSIyBagBagBa"]⟩]

end MailIndex.Unicode
