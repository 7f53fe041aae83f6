import SchemaAtlas.Pattern

/-!
# Rules of English inflection

The tables behind plural and singular forms: irregular pairs, words that have
one form only, and rules that change the end of a word.  A rule's placement may
name the groups of its pattern, `$0` for the whole match and `$1`, `$2`, … for
the groups.
-/

namespace SchemaAtlas.Inflection

open Pattern

/-- A rule that puts a placement in the place of what its pattern matches. -/
structure Rule where
  pattern : Pattern
  placement : String

/-- The irregular pairs of a singular and its plural. -/
def irregularPairs : List (String × String) :=
  [
    ("I", "we"), ("me", "us"), ("he", "they"), ("she", "they"),
    ("them", "them"), ("myself", "ourselves"), ("yourself", "yourselves"),
    ("itself", "themselves"), ("herself", "themselves"),
    ("himself", "themselves"), ("themself", "themselves"), ("is", "are"),
    ("was", "were"), ("has", "have"), ("this", "these"), ("that", "those"),
    ("my", "our"), ("its", "their"), ("his", "their"), ("her", "their"),
    ("echo", "echoes"), ("dingo", "dingoes"), ("volcano", "volcanoes"),
    ("tornado", "tornadoes"), ("torpedo", "torpedoes"), ("genus", "genera"),
    ("viscus", "viscera"), ("stigma", "stigmata"), ("stoma", "stomata"),
    ("dogma", "dogmata"), ("lemma", "lemmata"), ("schema", "schemata"),
    ("anathema", "anathemata"), ("ox", "oxen"), ("axe", "axes"),
    ("die", "dice"), ("yes", "yeses"), ("foot", "feet"), ("eave", "eaves"),
    ("goose", "geese"), ("tooth", "teeth"), ("quiz", "quizzes"),
    ("human", "humans"), ("proof", "proofs"), ("carve", "carves"),
    ("valve", "valves"), ("looey", "looies"), ("thief", "thieves"),
    ("groove", "grooves"), ("pickaxe", "pickaxes"), ("passerby", "passersby"),
    ("canvas", "canvases")]

/-- The words whose plural and singular are the word itself. -/
def uncountableWords : List String :=
  [
    "adulthood", "advice", "agenda", "aid", "aircraft", "alcohol", "ammo",
    "analytics", "anime", "athletics", "audio", "bison", "blood", "bream",
    "buffalo", "butter", "carp", "cash", "chassis", "chess", "clothing", "cod",
    "commerce", "cooperation", "corps", "debris", "diabetes", "digestion",
    "elk", "energy", "equipment", "excretion", "expertise", "firmware",
    "flounder", "fun", "gallows", "garbage", "graffiti", "hardware",
    "headquarters", "health", "herpes", "highjinks", "homework", "housework",
    "information", "jeans", "justice", "kudos", "labour", "literature",
    "machinery", "mackerel", "mail", "media", "mews", "moose", "music", "mud",
    "manga", "news", "only", "personnel", "pike", "plankton", "pliers",
    "police", "pollution", "premises", "rain", "research", "rice", "salmon",
    "scissors", "series", "sewage", "shambles", "shrimp", "software", "staff",
    "swine", "tennis", "traffic", "transportation", "trout", "tuna", "wealth",
    "welfare", "whiting", "wildebeest", "wildlife", "you"]

/-- The patterns of words whose plural and singular are the word itself. -/
def uncountablePatterns : List Pattern :=
  [ "pok" ++ among "eé" ++ "mon" ++ finish,
    except "aeiou" ++ "ese" ++ finish,
    "deer" ++ finish,
    "fish" ++ finish,
    "measles" ++ finish,
    "o" ++ among "iu" ++ "s" ++ finish,
    "pox" ++ finish,
    "sheep" ++ finish ]

/-- A character above the ASCII range that is no case variant of an ASCII
letter. -/
def beyondAscii : Pattern :=
  .one fun c => !Text.isAscii (fold c)

/-- The stems of Latin words that exchange `-us` for `-i`. -/
def usStems : Pattern :=
  anyOf ["alumn", "syllab", "vir", "radi", "nucle", "fung", "cact", "stimul",
    "termin", "bacill", "foc", "uter", "loc", "strat"]

/-- The stems of Greek words that exchange `-on` for `-a`. -/
def onStems : Pattern :=
  anyOf ["apheli", "hyperbat", "periheli", "asyndet", "noumen", "phenomen",
    "criteri", "organ", "prolegomen", "hedr", "automat"]

/-- The words that end in a mouse or a louse, without that ending. -/
def mouseStems : Pattern :=
  choice [maybe "tit" ++ "m", "l"]

/-- The rules for plurals; a later rule comes before an earlier one. -/
def pluralRules : List Rule :=
  [ ⟨maybe "s" ++ finish, "s"⟩,
    ⟨beyondAscii ++ finish, "$0"⟩,
    ⟨group (except "aeiou" ++ "ese") ++ finish, "$1"⟩,
    ⟨group (anyOf ["ax", "test"]) ++ "is" ++ finish, "$1es"⟩,
    ⟨group (choice ["alias", except "aou" ++ "us", "t" ++ among "lm" ++ "as",
      "gas", "ris"]) ++ finish, "$1es"⟩,
    ⟨group ("e" ++ among "mn" ++ "u") ++ maybe "s" ++ finish, "$1s"⟩,
    ⟨group (choice [except "l" ++ "ias", among "aeiou" ++ "las",
      among "ejzr" ++ "as", among "iu" ++ "am"]) ++ finish, "$1"⟩,
    ⟨group usStems ++ anyOf ["us", "i"] ++ finish, "$1i"⟩,
    ⟨group (anyOf ["alumn", "alg", "vertebr"]) ++ anyOf ["a", "ae"] ++ finish,
      "$1ae"⟩,
    ⟨group (anyOf ["seraph", "cherub"]) ++ maybe "im" ++ finish, "$1im"⟩,
    ⟨group (anyOf ["her", "at", "gr"]) ++ "o" ++ finish, "$1oes"⟩,
    ⟨group (anyOf ["agend", "addend", "millenni", "dat", "extrem", "bacteri",
      "desiderat", "strat", "candelabr", "errat", "ov", "symposi", "curricul",
      "automat", "quor"]) ++ anyOf ["a", "um"] ++ finish, "$1a"⟩,
    ⟨group onStems ++ anyOf ["a", "on"] ++ finish, "$1a"⟩,
    ⟨"sis" ++ finish, "ses"⟩,
    ⟨choice [group (anyOf ["kni", "wi", "li"]) ++ "fe",
      group (anyOf ["ar", "l", "ea", "eo", "oa", "hoo"]) ++ "f"] ++ finish,
      "$1$2ves"⟩,
    ⟨group (choice [except "aeiouy", "qu"]) ++ "y" ++ finish, "$1ies"⟩,
    ⟨group (except "ch" ++ among "ieo" ++ among "ln") ++ "ey" ++ finish,
      "$1ies"⟩,
    ⟨group (anyOf ["x", "ch", "ss", "sh", "zz"]) ++ finish, "$1es"⟩,
    ⟨group (anyOf ["matr", "cod", "mur", "sil", "vert", "ind", "append"]) ++
      anyOf ["ix", "ex"] ++ finish, "$1ices"⟩,
    ⟨wordEdge ++ group mouseStems ++ anyOf ["ice", "ouse"] ++ finish, "$1ice"⟩,
    ⟨group "pe" ++ anyOf ["rson", "ople"] ++ finish, "$1ople"⟩,
    ⟨group "child" ++ maybe "ren" ++ finish, "$1ren"⟩,
    ⟨"eaux" ++ finish, "$0"⟩,
    ⟨"m" ++ among "ae" ++ "n" ++ finish, "men"⟩,
    ⟨start ++ "thou" ++ finish, "you"⟩ ]

/-- The rules for singulars; a later rule comes before an earlier one. -/
def singularRules : List Rule :=
  [ ⟨"s" ++ finish, ""⟩,
    ⟨group "ss" ++ finish, "$1"⟩,
    ⟨group (choice ["wi", "kni", choice ["after", "half", "high", "low", "mid",
      "non", "night", .one fun c => !Text.isWordCharacter c, start] ++ "li"]) ++
      "ves" ++ finish, "$1fe"⟩,
    ⟨group (choice ["ar", choice ["wo", among "ae"] ++ "l",
      among "eo" ++ among "ao"]) ++ "ves" ++ finish, "$1f"⟩,
    ⟨"ies" ++ finish, "y"⟩,
    ⟨group (anyOf ["dg", "ss", "ois", "lk", "ok", "wn", "mb", "th", "ch", "ec",
      "oal", "is", "ck", "ix", "sser", "ts", "wb"]) ++ "ies" ++ finish, "$1ie"⟩,
    ⟨wordEdge ++ group (choice ["l",
      maybe (anyOf ["neck", "cross", "hog", "aun"]) ++ "t", "coll", "faer",
      "food", "gen", "goon", "group", "hipp", "junk", "vegg",
      maybe "pork" ++ "p", "charl", "calor", "cut"]) ++ "ies" ++ finish,
      "$1ie"⟩,
    ⟨wordEdge ++ group (anyOf ["mon", "smil"]) ++ "ies" ++ finish, "$1ey"⟩,
    ⟨wordEdge ++ group mouseStems ++ "ice" ++ finish, "$1ouse"⟩,
    ⟨group (anyOf ["seraph", "cherub"]) ++ "im" ++ finish, "$1"⟩,
    ⟨group (choice ["x", "ch", "ss", "sh", "zz", "tto", "go", "cho", "alias",
      except "aou" ++ "us", "t" ++ among "lm" ++ "as", "gas",
      anyOf ["her", "at", "gr"] ++ "o", among "aeiou" ++ "ris"]) ++
      maybe "es" ++ finish, "$1"⟩,
    ⟨group (anyOf ["analy", "diagno", "parenthe", "progno", "synop", "the",
      "empha", "cri", "ne"]) ++ anyOf ["sis", "ses"] ++ finish, "$1sis"⟩,
    ⟨group (choice ["movie", "twelve", "abuse", "e" ++ among "mn" ++ "u"]) ++
      "s" ++ finish, "$1"⟩,
    ⟨group "test" ++ anyOf ["is", "es"] ++ finish, "$1is"⟩,
    ⟨group usStems ++ anyOf ["us", "i"] ++ finish, "$1us"⟩,
    ⟨group (anyOf ["agend", "addend", "millenni", "dat", "extrem", "bacteri",
      "desiderat", "strat", "candelabr", "errat", "ov", "symposi", "curricul",
      "quor"]) ++ "a" ++ finish, "$1um"⟩,
    ⟨group onStems ++ "a" ++ finish, "$1on"⟩,
    ⟨group (anyOf ["alumn", "alg", "vertebr"]) ++ "ae" ++ finish, "$1a"⟩,
    ⟨group (anyOf ["cod", "mur", "sil", "vert", "ind"]) ++ "ices" ++ finish,
      "$1ex"⟩,
    ⟨group (anyOf ["matr", "append"]) ++ "ices" ++ finish, "$1ix"⟩,
    ⟨group "pe" ++ group (anyOf ["rson", "ople"]) ++ finish, "$1rson"⟩,
    ⟨group "child" ++ "ren" ++ finish, "$1"⟩,
    ⟨group "eau" ++ maybe "x" ++ finish, "$1"⟩,
    ⟨"men" ++ finish, "man"⟩ ]

end SchemaAtlas.Inflection
