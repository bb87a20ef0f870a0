/-!
# The table of character names

The names of the characters of Unicode 14.0 and their aliases, with the code
point of each, for reading a character by its name.  The names of the unified
ideographs and of the Hangul syllables are not here: they are spelled from the
code point.

The table is a list of texts which, one after another, hold the names in
alphabetical order.  Each entry starts with a character that says how many
leading characters the name shares with the name before it: a small letter for
fewer than 26 (`a` for none), U+0100 plus the count for more.  The rest of the
name follows, where a character from U+0180 on stands for the word of `words`
at its distance from U+0180.  Then comes the code point, as digits and capital
letters in base 36 after a mark: after `=` they are the code point itself,
after `>` the code point is that much plus one above the code point of the
entry before, after `<` that much below it.  No digits count as zero.
-/

namespace ScriptGate.CharName

/-- The words that stand for themselves in the names of `table`. -/
def words : Array String := #[
  "WITH ", "FORM", "INITIAL ", "LETTER ", "FINAL ", "ABOVE", "ARROW", "BELOW", "ISOLATED ",
  "SOLATED ", "VERTICAL ", "STROKE", "SYMBOL", "AND ", "THOUSAND", "SIGN", "RIGHT ", "MIDDLE ",
  "HORIZONTAL ", "BRACKET", "RIGHTWARDS ", "MARK", "SMALL ", "DOUBLE ", "TIMES ", "SIGN ",
  "HUNDRED", "MEDIAL ", "LEFT ", "YPOGEGRAMMENI", "ARROWHEAD", "PLUS ", "DIAERESIS", "HOOK",
  "CAPITAL ", "OVER ", "THREE", "DIGIT ", "POINTING ", "TRIANGLE", "WHITE ", "RIGHT", "SEVEN",
  "EQUAL ", "EIGHT", "ORNAMENT", "RETROFLEX ", "BLACK ", "DESCENDER", "INVERTED ", "PARENTHESIS",
  "PERISPOMENI", "DEGREES", "CIRCLE", "THREE ", "VOWEL ", "ANUSVARA", "NUMBER ", "PROSGEGRAMMENI",
  "HALF ", "MAKSURA ", "DOT ", "LEFTWARDS ", "LOWER ", "ACUTE", "EQUILATERAL ", "ASTERISK",
  "CANDRABINDU", "OPERATOR", "MACRON", "QUOTATION ", "DOTS ", "ABOVE ", "FIVE", "NINE", "SQUARE",
  "DIAGONAL ", "ABBREVIATION ", "BARB ", "TILDE", "UPPER ", "FACE", "GREATER-THAN", "CROSSING ",
  "DOWNWARDS ", "HUNDRED ", "PALATAL ", "QUESTION ", "GRAVE", "MEDIUM ", "ZERO", "ONE",
  "PUNCTUATION", "HEAVY ", "SINGLE", "CIRCLE ", "TRIANGLE ", "TRIANGLE-HEADED ", "MEEM ",
  "HORIZONTAL", "VIRAMA", "BLOCK", "ARROW ", "DOUBLE", "ROTATED ", "UNDERBAR", "VOCALIC ", "ALEF ",
  "EXCLAMATION ", "IRCUMFLEX", "ONE ", "PUNCTUATION ", "SEPARATOR", "DOWN ", "POINTED ", "VARIA",
  "MARK ", "ACCENT", "THUMB ", "LEFT", "SANS-SERIF ", "BLACK", "DIAMOND", "FULL ", "INDEX", "STOP",
  "VARIANT ", "LESS-THAN", "REVERSED ", "CARON", "LONG ", "SMALL", "TONE ", "UPWARDS ", "YEH ",
  "BREVE", "NINETY ", "TWO ", "BAR", "MEDIUM", "OUBLE ", "OVERLAY", "ALTERNATE ", "CONSONANT ",
  "OUR", "RING ", "SEVENTY ", "TAIL", "UBLE ", "OF ", "SHORT ", "SYMBOL ", "ALTERNATING", "LARGE",
  "ANGLE ", "CENTRE", "LITTLE", "GUNU", "HOOK ", "LINE ", "OPEN ", "LIGHT ", "WARDS ", "TORTOISE ",
  "ARCHAION", "EIGHTH ", "HITTING ", "OXIA", "SPOKED ", "STAR", "STROKE ", "THIEUTH", "-POINTING ",
  "EDILLA", "GREATER-THAN ", "PSILON", "DANDA", "LIGHT", "LITTLE ", "OCALIC ", "CIRCLED ",
  "CONJOINED", "FRACTION ", "LARGE ", "MALL ", "QUARTER ", "CROSS", "FROM ", "TRIANGULAR ", "WENTY",
  "DAGESH", "DOTTED ", "IRCUMFLEX ", "SQUARE ", "COMMA", "DIAMONDS", "HARPOON ", "IGATURE ",
  "SECTION ", "TENU", "SHELL ", "SIOS", "TO ", "DIGRAPH", "FORWARD", "JEEM ", "OBLIQUE ",
  "VERTICAL", "WALLPLANE ", "DOT", "DOWNWARDS", "INTERSECTION", "LENGTH ", "RAISED ", "FIVE ",
  "FOUR ", "INDEX ", "RING", "ARABIC-INDIC ", "EIGHTHS ", "ING ", "INTEGRAL", "ROSGEGRAMMENI",
  "SARGA", "CENTRE ", "EQUALS ", "SQUARED", "TRIPLE ", "CHARACTERS", "COMBINING ", "HEARTS",
  "ITERATION ", "LEFT-STEM ", "NORTH ", "CIRCUMFLEX ", "COMPRESSED ", "LENTICULAR ", "THUMB",
  "LINE", "BRACKET ", "CORNER ", "EAST ", "FIFTY", "FINGERS ", "HAH ", "HEAVY", "IGHT ",
  "INDEPENDENT ", "KIYEOK", "NUKTA", "OVERBAR", "PARENTHESIS ", "SLANTED ", "STRAIGHT", "VAGRAHA",
  "HIEUH", "RIEUL", "SHAFT", "ARROWS", "DOTS", "HAMZA ", "LAMEDH", "LATIN ", "NOT ", "QUARTERS ",
  "-THIRTY", "CLOSED ", "PRODUCT", "SINGLE ", "COLON", "HIGH ", "IAERESIS", "IVALENT ", "MULTIPLE",
  "THROUGH ", "TWELFTHS", "CORNER", "DOWN", "INSIDE", "RIGHT-POINTING ", "SOUND ", "SPADES", "TEN",
  "TONOS", "BOTTOM ", "DIFFERENTIAL", "PANSIOS", "PHIEUPH", "BACKHAND ", "CRESCENTS", "EXTENSION",
  "MAHAPRANA", "OPPOSING ", "PINWHEEL ", "POVODNAYA", "TURNSTILE", "UP ", "-CHIEUCH", "-HEADED ",
  "ANTICLOCKWISE ", "BENT", "CURLY ", "DASIA", "EIGHT ", "FORM ", "LESS-THAN ", "MIEUM",
  "NEPOSTOYANNAYA", "NIEUN", "OR ", "QUADRUPLE ", "REVERSE ", "SPACE", "TIKEUT", "TILDE ", "TONE",
  "FOR ", "HALF", "ON ", "ALMOST ", "HARPOON", "IKEUT", "JIHVAMULIYA", "KHAH ", "PIEUP", "RCHAIC ",
  "SOLIDUS", "UPADHMANIYA", "VERTICALLY ", "XCLAMATION ", "-HIEUH", "COMMA ", "OCLOCK", "SOUTH ",
  "ALEPH", "DASH ", "DIAGONAL", "DODEKATA", "ELLIPSIS", "EPSILON ", "GLOTTAL ", "INDICATOR",
  "LEFTWARDS", "LOW ", "MODIFIER ", "QUADRANT", "QUADRANT ", "SADHE", "SEMICOLON", "SHADOWED ",
  "STRAIGHT ", "SVETLAYA", "SYLLABLE ", "TEARDROP-SPOKED ", "WO ", "ZAPYATAYA", "ARROWHEAD ",
  "BAMBOOS", "CHARACTER ", "CROSSED-TAIL", "DASHED ", "GREEK ", "HINGED", "OGONEK", "ORIZONTAL ",
  "QUARTER", "RISING ", "SALTIRE", "SCRIPT ", "SECTION", "SEPARATOR ", "SIDE", "SUPERSCRIPT ",
  "SVARITA", "TEDUNG", "TURNED ", "URNED ", "VOICED ", "CENTRALIZATION ", "CLUBS", "EQUAL", "HEART",
  "HIRTY", "IGIT ", "RIGHT-SHADOWED ", "VERY ", "FOUR", "TACK", "BAR ", "BELOW ", "BETWEEN ",
  "BULLET", "CONTAINING ", "DALETH", "DASH", "EVERSED ", "HEAD ", "ICHOS", "IN ", "IYEOK", "LEAF",
  "LOGICAL ", "MOUTH", "MOVEMENT", "NUMERAL ", "PLASTICS", "SEMICIRCLE ", "SEVEN ", "WEST ",
  "WRINKLED", "WRIST ", "YEORINHIEUH", "ZAYIN", "BACKSLASH", "BESIDE ", "BETWEEN", "EXTENDED ",
  "KHIEUKH", "NUN", "OT ", "OTLESS ", "PAIRED ", "SANGCIEUC", "STATERS", "SUBUNIT", "GIMEL",
  "HAND ", "ICRON", "NOON ", "SLASH", "SUBSTITUTION ", "WHITE", "ACUTE ", "BETH", "CIRCUMFLEX",
  "DISH", "FILLER", "GRAVE ", "IEUP", "IRCLES", "KAREN ", "LPHA", "MEGA", "MIDDLE", "RIGHTWARDS",
  "THE ", "TOP ", "YMBOL ", "DOUBLE-LINE ", "ENVELOPE", "FIFTEEN", "FINGER-POST ", "FINGERS",
  "IDEOGRAPHIC ", "IEUC", "KAPH", "LOZENGE", "LUNATE ", "MUSICAL ", "NEUTRAL", "NOTEHEAD", "OMEGA",
  "OUR ", "POWERS ", "QUARTERS", "REST", "SHADE", "SINGLE-LINE ", "SMILING ", "SOLIDUS ", "TALENTS",
  "VISARGA", "ZIGZAG ", "-CIEUC", "ANUSVARA ", "BUBBLE", "FRONT ", "HETA", "KASKAL", "KOET",
  "LONSUM", "MARKER", "NOTEHEAD ", "PERSON", "RECTANGLE", "SECANT", "SIGMA ", "SUBSET", "U-SHAPED ",
  "UBJOINED ", "WAW", "YODH", "YUS", "APPROXIMATE", "EKFONITIKON", "FACE ", "FINAL", "GAN2 ",
  "LACK ", "ROSSED-TAIL", "TROKE", "YANNA", "ASH", "END ", "EYES", "HAND", "IGI ", "NOTE", "ONG ",
  "RIANGLE-HEADED ", "-KIYEOK", "ARABIC ", "BARLINE", "CENTRED", "DAYANNA", "DIVIDER", "HIRTEEN",
  "ITALIC ", "SHESHIG", "SIDDHAM", "TWO", "UPWARDS", "WITHIN ", "AIRPLANE", "AMMA", "ANTIMONY",
  "APOSTROPHE", "ARROWHEADS", "BOLD ", "CHECK ", "CLICK", "CURL", "EARTH", "FISHHOOK", "FLOURISH",
  "GAMMA", "GESH2", "HOLDING ", "HREE", "HYPHEN", "IGMA", "INAL ", "ISOSCELES ", "JOINER",
  "LEFT-POINTING ", "LEVEN", "LOSED ", "MEKH", "MONOCULAR ", "NOTCHED ", "ORTY", "OVERLINE",
  "OWEL ", "PARTIAL ", "PRISHTHAMATRA ", "QUARE ", "ROUNDED ", "RTAGS", "SCISSORS", "SEQUENTIAL",
  "SHAD", "SIXTEENTHS", "TABULATION", "VERSE ", "WELVE", "ETA", "HIN", "BALL", "CANCELLATION ",
  "ELTA", "FILL", "IGN ", "KAPYEOUNMIEUM", "KAPYEOUNPIEUP", "NOON", "ONE-HUNDRED-AND-SIXTIETH",
  "OPEN", "PEN ", "SEMICIRCULAR ", "TAK4", "TEEN", "AMPERSAND", "AS-SALAAM", "CHARACTER",
  "CIRCULAR ", "IEUNG", "LTERNATE ", "MILLIONS ", "MOON ", "MURDA", "NIGHT", "OMBINING ", "OWER ",
  "PIECE", "POSTROPHE", "QUARE", "QUEEN", "SASAK", "SEVENTEEN", "SHAR2", "TELEPHONE", "UBSCRIPT ",
  "URLY ", "VINE ", "WARDS", "-FLOORPLANE ", "BISHOP", "CANDRA ", "CEILING", "CHIEUCH", "CORNERS",
  "FINGER ", "HIEUPH", "HYPHEN-MINUS", "INSIDE ", "INTERROBANG ", "LOTTAL ", "MYSLITE", "NARROW ",
  "NORMAL ", "OPEN-HEADED ", "OTATED ", "POINT ", "RED ", "RESH", "ROTUNDA", "RUPEE ",
  "SEMI-VOICED ", "SHADED ", "THETA ", "THIRDS", "THIRTY-FIVE ", "TWENTY-FIVE ",
  "YELORUSSIAN-UKRAINIAN ", "KLYUCHENEPOSTOYANNAYA", "YEH", "-FEATHERED ", "-SIOS", "ACKNOWLEDGE",
  "ALEF", "AMDA", "ANGLE", "ANUDATTA", "APPA", "BUILDING", "CEILING ", "CHEST", "CIRCLES ",
  "DIGRAPH ", "EATER-THAN ", "EIGHTEEN", "EQUIVALENT ", "FALLING ", "FIFTEEN ", "FLEX",
  "FORTY-FIVE ", "GEMINATION ", "HAA", "IALYTIKA", "IDEWAYS ", "INVERSE ", "KASRA", "KLYUCHEVAYA",
  "MBINING ", "MEASURE ", "MGO ", "MINUS", "NEO", "NINE ", "NINETEEN", "NVERTED ", "OKRYZHEVAYA",
  "OPENING ", "PARAKALESMA", "PARALLEL", "PERCENT ", "PLUS", "REH ", "RELATION", "REPETITION ",
  "RIANGLE ", "ROTATION-FLOORPLANE ", "SILI", "SQUARED ", "SS-THAN ", "TEN ", "TOGETHER",
  "TRESVETLAYA", "ULAR ", "UNCTUATION ", "UNION", "UPERSCRIPT ", "WORD ", "YIG ", "ZAPYATOY", "HAR",
  "MEM", "SHE", "AELA-PILLA", "BAD", "BIG ", "CLOCKWISE ", "CROSS ", "DEPARTING ", "DRAGON",
  "EIGHTH", "EQUIHOPPER", "FLAG", "FLOOR ", "HEADSTROKE", "HIEUKH", "IMAGE ", "INTRODUCER",
  "KAPPA ", "LAGAB ", "LAGAR ", "LENGTHENER", "MADDA ", "MARK-1", "MINUS ", "ORNER ", "PARAGRAPH ",
  "PERSET", "PLE ", "QUALS ", "REE ", "RIANGULAR ", "RIPLE ", "ROUND ", "SANGKIYEOK", "SILHOUETTE",
  "SSANGPIEUP", "THIRD ", "THOUSANDS ", "TIP ", "TONE-1", "TRIPLE", "WAVE", "WELVE ", "AIN", "CHA",
  "CURVED ", "EAVY ", "ELLIPSE", "ERCIAL ", "FEMALE ", "GHAIN", "HANDS", "HEADED ", "HREE ",
  "IANGLE ", "ISOLATE", "JOINED ", "KNUCKLE", "KRYZHEM", "MALE ", "ND ", "NITIAL ", "NSULAR ",
  "OMMA ", "PSILI", "QUARED ", "RACHY", "REPEAT ", "SAMPI", "SANDHI ", "SATANGA", "SHA", "SIGMA",
  "SQUARES", "STAFF", "STERISK", "TACK ", "TAW", "TAYANNA", "THEN ", "TSHEG", "WAVY ", "ZAIN ",
  "COVERING ", "CRESCENT ", "DELIMITER", "EFT ", "GAR ", "HEAD", "HIGH-REVERSED-9 ", "JEEM",
  "KATAKANA ", "KHOKHLOM ", "KING", "LEG", "MAN", "MRACHNAYA", "NEGATIVE ", "NOTATION ",
  "OPERATOR ", "OUTLINED ", "PENTAGRAM", "RIZONTAL ", "ROC", "ROOK", "SIXTEENTH", "SUIT",
  "THOUSAND ", "THOUSANDS", "WALL", "ANTIRESTRICTION", "AT ", "BALLOON-SPOKED ", "HAH", "KAF",
  "MULTIPLICATION ", "OTA", "OW ", "QAF", "TIGHTLY-CLOSED ", "UAE", "-CREE ", "-PIEUP", "ALPHA",
  "ARC ", "ARCHAIC ", "ARRED ", "AVAGRAHA", "BELT", "CAN", "COMPUTER", "DAGGER", "DAMMA", "DIPLI",
  "DIVIDED ", "DROP-SHADOWED ", "ED ", "EH ", "EQUALS", "ESH2", "FENCE", "FIRST ", "FITA", "FOLDER",
  "GAD ", "GANGIA", "GISH", "GLASS", "HAMZA", "HEART ", "HEEN", "HI ", "HITE ", "IDDLE ",
  "INFINITY", "INGLE ", "INSULAR ", "INTERPOLATION ", "IXTEEN", "KATO", "KAVYKA", "KNUCKLES",
  "LAM ", "LEERAEWA", "LUS ", "MAI ", "MEDAL", "MEEM", "MILLIONS", "MOUNTAIN", "NABLA", "NOTE ",
  "NOTES", "OBOLS ", "OGOGRAM ", "OLD ", "OLLAR ", "OTATION ", "OUT ", "PALAUNG ", "PAP ",
  "PARESTIGMENON ", "PENTAGON", "PLACE ", "PROSTAYA", "QOPH", "RADICAL ", "RANGE ", "RECEIVER",
  "REE", "REVERSED", "RPOON ", "SIEUNG", "SOURCE", "SPREAD", "TED ", "TEXT", "TICK", "TONE-2",
  "TONGUE", "TRAIGHT ", "TREE", "TTER ", "ULL ", "ULTIPLICATION ", "UNDER ", "VE ", "VISARGA ",
  "WASH ", "WATER", "WAVE ", "WIDTH ", "WIND", "YLLABLE ", "ASTROLOGICAL ", "DOUBLE-LINED ", "FEH",
  "GAR", "GYPTOLOGICAL ", "INTERSECTION ", "IX ", "JUSTIFICATION", "KUR", "NASALIZATION ",
  "ONGRATULATION", "OUT", "PARALLELOGRAM", "RAE", "RANSPOSITION ", "REDUPLICATION", "RIGHT-SHADED ",
  "TETARTIMORION", "WAW-AYIN-RESH", "ALAYHE ", "ALTERNATING ", "ANTARGOMUKHA", "AREA", "AROUND ",
  "BACK", "BACK-TILTED ", "BAYANNA", "BOOK", "BOX", "BUT ", "BUTTON ", "CANDRABINDU ", "CAT ",
  "CHROMA ", "CHRONON", "CLEF", "COMING ", "CONSECUTIVE ", "CONTACT", "CROSSED", "CULTIVATION ",
  "DEMESTVENNY ", "DIGAMMA", "DIMINUTION-1", "EEEE", "EEN", "EIGHTHS", "ETH", "FACTOR ", "FLEURON",
  "FLOPPY ", "GAETTA-PILLA", "GAYANNA", "GLAGOLI", "HAIR", "HALANTA", "HALF-CIRCLE ", "HANGUL ",
  "HOOKED ", "HORN", "IGHT", "IGI", "JAYANNA", "JEGOGAN", "KHAMTI ", "KLYUCHEVAYA ", "LABIAL ",
  "LANTED ", "LEFT-SHADED ", "LETTERS", "MACHINE", "MAKSURA", "MASH", "MONOGRAMMOS ", "NO ", "NOR ",
  "NUBIAN ", "ORT ", "OUNDED ", "OURTEEN", "PAWN", "PICTURE", "PLACEHOLDER ", "POINTER", "RAIN",
  "RECTANGULAR ", "RECTILINEAR ", "RIANGLE", "RONT-TILTED ", "SECOND ", "SEVENTY", "SHAKING",
  "SHEI", "SKEWED ", "SPREAD ", "SUNG", "TAH", "TAN", "TIKHAYA", "TRAFFIC", "UBSTITUTION ",
  "URGLASS", "WAITING", "WN ", "YPTOGRAMMIC ", "-TAIL", "ANNOTATION ", "ANTIMONIATE", "BACK ",
  "BASSA", "BIRGA", "BOARD", "CHECK", "COMPOSITION", "CROSSHATCH ", "CUBED", "CURVE", "DELTA",
  "DESCENDING ", "EPENTHETIC ", "ERIN2", "ET ", "EUAEM", "EXCLAMATION", "FATHA", "FISH ",
  "FIXED-FORM ", "GUNU ", "HARD ", "HIEROGLYPH ", "HORSE", "IDE-HEADED ", "IEE", "ING",
  "INTERLACED ", "JOKER", "KING ", "LAM", "LAMDA", "MAGNIFYING ", "MBOL ", "MOUSE", "NIKOLSBURG ",
  "O-1", "OUND ", "PAMPHYLIAN ", "PARAGRAPHOS", "PARAPHRASE ", "PATAH", "PRIME", "PROLATIONE ",
  "QUILL", "RANSMISSION", "ROSS ", "RROW ", "SAD", "SEMIDIRECT ", "SHAN ", "STILE", "STOP ",
  "TIMES", "TROKUTASTI ", "TUG2 ", "YAJURVEDIC ", "YIN", "ZERO ", "-HIRAGANA ", "-KHYIL",
  "AEDA-PILLA", "AMPERSAND ", "AND", "ASPIRATION", "BAN2", "BEGIN ", "BEH", "BINDU ", "BIRGA ",
  "BLOCK ", "BOTTOM", "BREVE ", "BUTTON", "CARET ", "CHRIVI", "CHWA", "CLOSED", "COMPLETION",
  "COPPER", "CROSSBONES", "CURVE ", "DAD", "DECORATION", "DIGRAMMOS ", "DIRECTION ", "DISK",
  "DJERVI", "DOTTED", "E-1", "EIGHTIETHS", "EIGHTY", "EMIDIRECT ", "ENCLOSURES", "ER ", "FARSI ",
  "FEED", "FIFTHS", "FLATTENED ", "GHUNNA", "GRAPH ", "HAKASSIAN ", "HAL", "HANDS ", "HEAVEN",
  "HELMET", "HIVETE", "I-1", "IDEOGRAPH ", "IFIED ", "IGAMMA", "IGHTWARDS ", "IMPERFECTA",
  "INSERTION ", "ISIGOTHIC ", "IVE ", "LAING ", "LD ", "LEADER", "LEVEN ", "LIPS", "LOCOMOTIVE",
  "LONG", "LOOP", "MEMBER", "MONKEY", "MONOFONIAS", "NAASIKYAYA", "NE ", "NINETY", "NUKTA ",
  "NUMERATOR ", "ODD ", "OLIDUS", "OLON", "OTTOM ", "OWN ", "PAPER ", "PERCUSSIVE", "PRECEDING ",
  "PROLONGED ", "PROPELLER ", "QAMATS", "QUAD", "RECTANGLE ", "RECYCLING ", "RHO ", "RROW",
  "RUDIMENTA ", "RYZHEM", "SCRIPTION ", "SHU2", "STEM", "STICK ", "SYMMETRIC ", "TAB ", "TAH ",
  "TAMIL ", "TAR", "TARGET", "TELEPHONE ", "TERMINATOR", "TETRASIMOU", "TONAL ", "TOPBAR", "TSHEG ",
  "TWENTIETHS", "U-1", "UDATTA", "UNDERLINE ", "UNG", "UPTURN", "URL", "VARIATION ", "WHEELCHAIR",
  "WO-CIRCLE ", "YANG", "ZEMLJA", "-STACCATO", "ACTUALLY ", "AKHMIMIC ", "ARMENIAN ", "ASSYRIAN "]

/-- The names and their code points, as the module docstring lays them out. -/
def table : Array String := #[
  "aABACUS>2RXPbC CURRENT=73AcCORDION>2KZ4eUNT OF=6IOcK=6dNOWLEDGE<cTIVATE ͿʰSHAPING>6EEjؓSWAPPING<2cUTE ǵ=50hNGLE>82YbDDRESSED Ɋ̽SUBJECT<1PAcHESIVE BANDAGE>2LIVcI SHAKTI=7JGcӚALIF ь>2H3RgƢƃALIF<1WvBA>3wHE>2vCHI>DvDAALI<KwHA>BvE<4vFA>vGA>DwBE>5vHA<8vI<BvJIIM>8vҪ<3wHA>BwPO>2vLAAM<UvMIIM>vNHA>NwUN<BwYA>8vO<DvPE<6vQAAF>GvRA<Fvѿ>OwINNYIIYHE<SvTU>KvU<7vVA>8vͪ<DvYA>2wHE<4vZAL>GhONSONANT MODIFIER>14gƥƬ>Fmǉ<3nȐ<1mǊ>4mǛ<8mƪ>5nIX<1mƤ<3nWO<1mǚ<2gGEMINATE ȏMODIFIER<7nION ƕ<3gӌ>gƂǬƕ>MoǗƕ>gԗƕ<KhUKTA<1gƖƃALIF<14tBA>3uHE>2tCHI>DtDAALI<KuHA>BtE<4tFA>tGA>DuBE>5tHA<8tI<BtJIIM>8tҪ<3uHA>BuPO>2tLAAM<UtMIIM>tNHA>NuUN<BuYA>8tO<DtPE<6tQAAF>GtRA<Ftѿ>OuINNYIIYHE<StTU>KtU<7tVA>8tͪ<DtYA>2uHE<4tZAL>GgƷь>3cMETOS=8O5dISSION TICKETS>2I0PcULT>181bEGEAN Αƕ<1D5BhDRY ИӅ̨>1LhLIQUID ИӅ̨>hИէ̨>pќ̨>hƹƬ<1Dt ƚ>HuƎ>8tY<Iu Ǝ>Qoɲ<Ut Ǝ>QqVE<10s ƚ>HtƎ>8pΦ<Jt Ǝ>QqUR<10s ƚ>HtƎ>8oǊ<Ms ƚ>HtƎ>8sTY<Iu Ǝ>QoǛ<18r ƚ>HsƎ>8oƪ<Lt ƚ>HuƎ>8tTY<Iv Ǝ>QpIX<11r ƚ>HsƎ>8rTY<It Ǝ>Qoʚ<Wr Ǝ>Qp˾<Pu Ǝ>Qqӵ<10t ƚ>HuƎ>8pȽ<Ju Ǝ>QqO<10r ƚ>HsƎ>8hWEIGHT BASE UNIT>JoӅ̨>pOURTH ̨>2oէ̨<2oќ̨>iORD ˲ɑ<1Lwɮ<1cRIAL TRAMWAY>1CIObFGHANI Ə=16ZbHOM ȏƙƛLA>1HXTĜIGATING RA>1ěRA<1fƥƬ>Plǉ<3mȐ<1lǊ>4lǛ<8lƪ>5mIX<1lƤ<3mWO<1lǚ<2fƃA<UnϊBA>7wGA<4wTA<HmBA>2nHA>FmCA>13nHA<1HmDA>7nDA>1BoHA>nHA<1CmGA>nHA>1mHA<6mJA<7nHA>EmKA<PnHA>mLA>CnLA>1JmMA<1PmNA<6nGA<1nNA>1UnYA<1HmPA<AnHA>mRA>5mSA>1mTA<BnHA>7nTA>1GoHA>fƹʚ<8nȽ>fƙKILLER<GkRULAI>Ik˱<1lȸ˱<1g̿VI>2fƷƙA<VrA>rI>7rM>rW<3qE<1qI<4rI>qO>4qU<4rU>bIRPLANE=7PKi ARRIVING>2JMRjDEPARTURE<1bKTIESELSKAB=6KTbLARM CLOCK>IQcCHEMICAL ȗʼAIR>2K9CxLEMBIC>2WyKA",
  "LI<1GĜ-2>yUM>DxMALGAM>LxNTIMONY ORE<1CxQUA REGIA<11Ġ-2>ěVITAE>Ġ-2>ĚFORTIS<4xRSENIC>1GxSHES>SxURIPIGMENT<QwBATH ȕMARY>19ĞVAPOURS>xISMUTH ORE<1AxͲSULFUR<1BxORAX>1Eě-2>Ĝ3>xRICK>KwCADUCEUS<9yLX<4yPUT MORTUUM>1xINNABAR<1NxOPPER չ>HĝORE<5xROCUS ȕ׈>2Ħ-2>ĠIRON<6yUCIBLE>1YĞ-2>ğ3>ğ4>ğ5>wDAY-NIGHT>6xISSOLVE<FĞ-2>zTILL<2wΔ<2LwFIRE<1wGOLD>NxUM>1AwƻDRAM>14ěOUNCE>xORSE DUNG<TyUR>NwIRON ORE<2AĞ-2>Ě-COPPER ORE>3wLEAD ORE>8xODESTONE>14wMARCASITE<RxERCURY SUBLIMATE<14ħ-2>Ĩ3>xONTH>2Mwώ<2yTRE<2IwOIL>1CwPHILOSOPHERS SULFUR<1Kx̣ASHES>21yWDER<DĜӀBRICK>ExRECIPITATE>4xURIFY>3yTREFACTION>wQUICK LIME<ZzNTESSENCE<1TwREALGAR>1Mĝ-2>yGULUS<Aĝ ȕ΍<2ĩ-2>ġIRON<Iĝ-2>JĞ3>Ğ4>yTORT>1JxOCK SALT<2Dğ-2>wSAL-AMMONIAC>VzT<11Ě ȕ΍>OĞCOPPER չ<7xCEPTER ȕJOVE>14xILVER<1GxOAP>1KxPIRIT<DxTARRED TRIDENT>AyRATUM SUPER STRATUM>9ī-2>xUBLIMATE ȕ΍<1Dģ׈<AģSALT ȕ΍>Bī׈<7ĞION>1IyLFUR<29wTARTAR>1DĜ-2>x̎ORE<NzCTURE>UxRIDENT>8xUTTY<4wURINE>7wVERDIGRIS<19xINEGAR<Uĝ ȕ΍>10ĝ-2<10Ğ3>yTRIOL>9ĝ-2>wԉ<JyX>1XcEF ƌ=6K5dMBIC>129dRT=7cIEN MONSTER>2QUUcL AROUND-PROFILE=6Y6eƫTO<6AcM<5KGdOST ƫʵƫTO>5KDnTO<2p ƀɪǵ>1LYcTERNATE ONE-WAY ƜWAY ձ<PMi׬KEY ƌ<NIbMALGAMATION ʵCOPRODUCT>1BRcBULANCE>2IXDcERICAN FOOTBALL<JTcPERSAND=12dHORA>2QQBbNATOLIAN ֏A001<YREy2>y3>y4>y5>y6>y7>y8>y9>x10>zA>y1>y2>y3>y4>y5>y6>y7>y8>y9>x20>y1>y2>y3>y4>y5>y6>zA>y7>y8>y9>x30>y1>y2>y3>y4>y5>y6>y7>y8>y9>zA>x40>y1>zA>y2>y3>y4>y5>zA>y6>zA>zB>y7>y8>y9>x50>y1>y2>y3>y4>y5>y6>y7>y8>y9>x60>y1>y2>y3>y4>y5>y6>zA>zB>zC>y7>y8>y9>x70>y1>y2>y3>y4>y5>y6>y7>y8>y9>x80>y1>y2>y3>y4>y5>y6>y7>y8>y9>x90>y1>y2>y3",
  ">y4>y5>y6>y7>zA>y8>zA>y9>w100>zA>y1>zA>y2>zA>y3>y4>zA>zB>zC>y5>zA>zB>y6>y7>zA>zB>zC>y8>y9>x10>zA>zB>y1>y2>y3>y4>y5>zA>y6>y7>y8>y9>x20>y1>y2>y3>y4>y5>zA>y6>y7>y8>y9>x30>y1>y2>y3>y4>y5>zA>y6>y7>y8>y9>x40>y1>y2>y3>y4>y5>y6>y7>y8>y9>x50>y1>y2>y3>y4>y5>y6>y7>y8>y9>x60>y1>y2>y3>y4>y5>y6>y7>y8>y9>x70>y1>y2>y3>y4>y5>y6>y7>y8>y9>x80>y1>y2>y3>y4>y5>y6>y7>y8>y9>x90>y1>y2>y3>y4>y5>y6>y7>y8>y9>w200>y1>y2>zA>zB>y3>y4>y5>y6>y7>zA>y8>y9>zA>x10>y1>y2>y3>y4>y5>zA>y6>zA>y7>y8>y9>x20>y1>y2>y3>y4>y5>y6>y7>zA>y8>y9>x30>y1>y2>y3>y4>y5>y6>y7>y8>y9>x40>y1>y2>y3>y4>y5>y6>y7>y8>y9>x50>y1>y2>y3>y4>y5>y6>y7>y8>y9>x60>y1>y2>y3>y4>y5>y6>y7>zA>y8>y9>x70>y1>y2>y3>y4>y5>y6>y7>y8>y9>x80>y1>y2>y3>y4>y5>y6>y7>y8>y9>zA>x90>y1>y2>y3>y4>zA>y5>y6>y7>y8>y9>zA>w300>y1>y2>y3>y4>y5>y6>y7>y8>y9>zA>x10>y1>y2>y3>y4>y5>y6>y7>y8>y9>x20>y1>y2>y3>y4>y5>y6>y7>y8>y9>zA>x30>y1>y2A>zB>zC>y3>y4>y5>y6>zA>zB>zC>y7>y8>y9>x40>y1>y2>y3>y4>y5>y6>y7>y8>y9>x50>y1>y2>y3>y4>y5>y6>y7>y8>y9>zA>x60>y1>y2>y3>y4>zA>y5>y6>y7>y8>zA>y9>x70>y1>zA>y2>y3>y4>y5>y6>y7>y8>y9>x80>y1>zA>y2>y3 RA ʵRI>zA>y4>y5>y6>zA>y7>y8>y9>x90>y1>y2>y3 Ƭ>y4>y5>y6>y7>y8>y9>w400>y1>y2>y3>y4>y5>y6>y7>y8>y9>x10 ֻLOGOGRAM ƕ>zA ͷLOGOGRAM ƕ>y1>y2>y3>y4>y5>y6>y7>y8>y9>x20>y1>y2>y3>y4>y5>y6>y7>y8>y9>x30>y1>y2>y3>y4>y5>y6>y7>y8>y9>x40>y1>y2>y3>y4>y5>y6>y7>y8>y9>x50>zA>y1>y2>y3>y4>y5>y6>y7>zA>y8>y9>x60>y1>y2>y3>y4>y5>y6>y7>y8>y9>x70>y1>y2>y3>y4>y5>y6>y7>y8>y9>x80>y1>y2>y3>y4>y5>y6>y7>y8>y9>x90>y1>y2>y3>y4>y5>y6>y7>w501>y2>y3>y4>y5>y6>y7>y8>y9>x10>y1>y2>y3>y4>y5>y6>y7>y8>y9>x20>y1>y2>y",
  "3>y4>y5>y6>y7>y8>y9>x30>fMICAL ˽>ZNDcCHOR=7MBcD ƀɑ>8TcGER ƌ>2J0WdLE=6QOf ƀS ʖ>1H9lǩ>5dRY Ǒ>2IYJdSTROM Ə=6JVdUISHED Ǒ>2KMZcKH=7J9cT>2J92dENNA ƀBARS>61dICLOCKWISE ʊǟƆ=85CpONTOUR ɝ<1E5oǔƍȅȠǟʂ>2K7KoGAPPED ǟƆ=7W2oINTEGRATION>F2oȠǟƆ<1NBo̖̾Ɔ<4pͽʜͨƆ>1XYĞƜͨƆ>ĞȠǟƆ<VĞƐͨƆ>SĞ̾ͨƆ>2bPC=4FcL FUNCTIONAL ȗҳ>6VUě ǩ<4wBACKSLASH Ȋ<1Iwǟ̝>8ĝƠ>RĝJOT<13ĝȩ>WğILE<Yĝǩ>UxѷȊ>DwDEL Ơ<8Ě֬<GĚǏ>OzTA ֬<WĜǩ>DxIAMOND ǩ>x؁׃Ǐ>MěSHOE ֬<Bě҄JOT<OĠǩ<4ĚȢVANE>Bw˓ǩ>WwȮƠ<EwI-BEAM<1FxҬ>1OĚ ǩ>4wJOT Ơ<KĚǩ<9wƜSHOE ֬>BĚȢVANE<Yw͍>1Bě ǩ>3w؈>RĚ ̝<2BěƵ<6Ĝ׿>ZěDEL<CĞTA<7ĜIAMOND<JĝVIDE<1Ĝ؁CARET>IğȢƆ>Aě˼<Věǒ>BěJOT<9ěƾƆ>BĝSS-THAN<4ěʇ˼>17ěQUESTION>ěƔƆ<14ḙ̌<7ěʨCARET>HĝȢƆ<3yOTE ؈>DĜǩ<6wRHO>RxרVANE<1AwSEMICOLON ǩ>13xLASH Ȋ<1BxQUISH ؈<8xTAR Ơ>17yILE Ǐ>9wʺƠ<5wʨ׃Ǐ>9zSHOE JOT<Lz҄Ơ>3ĞJOT<CĞɺ<4yȢVANE<2wZILDE>ScOLLON>1O7dSTROPHE=13cPLICATION PROGRAM COMMAND>3BdROACHES ̽LIMIT>6NKfXIMATELY ԫʇجƫTO<AoƫʵƫTO>1M1uTO<1M3w ʵ̽чOF>CbQUARIUS>SFbRABIC BASELINE јɑ<5VVhɂ<HNiϚҼ>K8sկ>2n֊<4sկ>2nЕ<1sկ>2hҼ<IIm ƈƁ>1D0OnƛƁ>nƀɑ=1RYmկ<J6p ƈƁ>1D0LjTE ǰ=171iECIMAL ǰ>2LiISPUTED ͷȕAYAH>HIiȌƐˤƅ>Oģ ƀɑ>nD MADDA<2MhEMPTY ɠʎǽ<C3u˗ǽ<1iѴȕAYAH<DoTEXT ƕ<5Ch֊>1Cm ƈƁ>1D0NnƛƁ>nƀƽƅ=1RPsə<1sȉʃ<IEmկ<Jp ƈƁ>1D0Ki׬ǲȩ=19PiOOTNOTE ͡<2Ziԃǽ>5ThƻэƣMADDA>CQjMZA ƅ<GBnƇ>hƱҼ>1hЕ<7m ƈƁ>1D0PnƛƁ>nƀƽƇ=1RQmկ<IXp ƈƁ>1D0MhȷǟƇ=1QPnјƽƅ<3xƇ>xϦǟƇ>2iҎˤƅ>10wƇ>1jԂAE<F8pFRICAN Ԑ>DHwξ>1wҮ<1z ƀƶǇƅ>7pIN<I3r ƄƁ>1D3KsƂƁ>tƉƁ<2sƛƁ>2sƀƶǇƅ=1B4ĢƇ>EQĢƦǔƅ<9HyˢǇƅ<1Ġˈƅ>1pLEF<8Os ƄƁ>1D2EtƈƁ<1tՕ=18PĚ ƄƁ>1D46ěƈƁ<1tWASLA=19Ty ƄƁ>1CDBzƈƁ<1uITH ATTACHED ʜƐЕ=1O5ĳ ƍƽƅ>7ĸƜə>2ġ֊<GġЕ>3ġƜӌ>DĦјɑ<AġƐӌ>8ħјɑ<AĢ֞ƽƅ<1īƇ>2ġ̾Ɛ֊<8İ ƍƽƅ>9ĵƜə>2yƽƅ<4y̠",
  "ɚƥƶƅ<7Aĵˢƅ<1yʄƅ<9Cģ ƄƁ>1D28ĤƈƁ<1ĞƇ=17Pģ ƄƁ>1D2AĤƈƁ<1yƜƑƋ=1O3yэƅ<GHģ ƄƁ>1D27ĤƈƁ<1yƐƑƋ=1O2ī ƍƽƅ>9İƜə>2y҉ʄƅ<ELģƇ>oBEEH>7s ƄƁ>1CD3tƂƁ>uƉƁ<2tƛƁ>2qH=17Sr ƄƁ>1D2FsƂƁ>tƉƁ<2sƛƁ>2sƀƽ̅ƍƶǇƅ=1G1xʄƅ>9BxƱƖV Ƈ<98xƖǢƅ>9SĝV<9SĞ Ƈ>95xƶǇHORIZONTALLY Ƈ<9CĢƦȅƇ>1ĸ ƍȉǇƅ>yˢǇ̅ƍƽƅ>rEH<5Wt ƄƁ>1CD6uƂƁ>vƉƁ<2uƛƁ>2o׋=186r ƄƁ>1D3BsƂƁ>tƉƁ<2sƛƁ>2sƀƽƇ=1DNqן<33t ƄƁ>1CE0uƈƁ<1qL=17Zr ƄƁ>1D2YsƈƁ<1sƀƽƇ=1AIĠ ƍƖծ>xɗǇƅ>4xƱƖV Ƈ>5LĠV<30xə<2TxƶǇǈɒ>5ĢƇ>F2yˢǇˈ̅ƍƖծ<9HpDAHAL<5Ou ƄƁ>1CDXvƈƁ<1rL=1AGs ƄƁ>1CE8tƈƁ<1pּ̤=19QwԐ>1EwҮ<1EpUL>Ur ƄƁ>1CE0sƈƁ<1pϻ=1ACs ƄƁ>1CDQtƂƁ>uƉƁ<2tƛƁ>2oE=1CGp ƄƁ>1CESqƂƁ>rƉƁ<2qƛƁ>2oטϻ=1CCx ƄƁ>1CFKyƂƁ>zƉƁ<2yƛƁ>2yƀ̠ɚƥɗƇ=1H3Ĺƶƅ<1ĺˢƅ<1ĝƱV<8OĝƶǇƅ>1ĞˢǇƅ<1pEH>2r ƄƁ>1D3KsƂƁ>tƉƁ<2sƛƁ>2sƀƽƇ=1B7Ġ ƍƶǇƅ>E8ěMOVED Ƈ<EAxƶǇƇ>2ĢƦȅƇ>57yˢǇƇ<1oGAF<4Xr ƄƁ>1CDFsƂƁ>tƉƁ<2sƛƁ>2sƀƱƋ=1PSxə<E8xƶǇƅ>3yˢǇƇ<2pHAIN<3Ct ƄƁ>1D3NuƂƁ>vƉƁ<2uƛƁ>2uƀƽƇ=1DOzƶǇƅ>CMpRAF>4pUEH<ETs ƄƁ>1CDFtƂƁ>uƉƁ<2tƛƁ>2oҩ=17Xr ƄƁ>1D2SsƂƁ>tƉƁ<2sƛƁ>2sƀ̠ɚƥɗƇ=1H8xʄƅ<6ZxƱƖV Ƈ>EGxƖͿƃؕƅ<7SİѴȉʃ<3įƇ<1xƶǇƅ<6HĢƦȅƇ>5UyˢǇƅ<1ĠƊƅ<5XqMZA<2Pt ƈƁ>1D26pEH=18Nr DOACHASHMEE>3Aĝ ƄƁ>1CDOĞƂƁ>ğƉƁ<2ĞƛƁ>2sƄƁ>N0sGOAL=1C1w ƄƁ>1CDHxƂƁ>yƉƁ<2xƛƁ>2xƀʄƅ=1C2sƂƁ>1D0OtƉƁ<2sƛƁ>2sƀƱV=1DRxȆƅ<1RĠ ƄƁ>1CDGġƈƁ<1pIGH ӌ=19Wy Ͽ>zͪ>zϻ>1oҒ<24s ƄƁ>1D2PtƂƁ>uƉƁ<2tƛƁ>2tƀƶǇƅ=1QDģƇ>zˢǇƅ<10qH<EIr ƄƁ>1CDUsƈƁ<1oҪ=18Jr ƄƁ>1D3QsƂƁ>tƉƁ<2sƛƁ>2sƀƽƅ=1BGěƇ>EFxə<EHxƶǇƇ>2yˢǇƅ>5SqSHMIRI ϻ<9RpEHEH>3St ƄƁ>1CDHuƂƁ>vƉƁ<2uƛƁ>2uƀƽƅ=1GIzƖV>9RzƶǇƅ<9RĤƇ<87ĤƦȅƇ>87ĚˢǇƅ<89ĢˈƇ>GHpҩ<GVs ƄƁ>1D2VtƂƁ>uƉƁ<2tƛƁ>2pIRGHIZ OE=1C5y ƄƁ>1CEZzƈƁ<1wYU=1C9y ƄƁ>1CEXzƈƁ<1o֗=18Kr ƄƁ>1D3TsƂƁ>tƉƁ<2sƛƁ>2sƀȊ=1GQxƽƅ<50zȔȊ>DRxƖͿƃؕƅ>WĝV<EQxƶǇƅ>1ĢƇ>pҭϿ>DWoƕ<I9pEEM>14s ƄƁ>",
  "1D3WtƂƁ>uƉƁ<2tƛƁ>2tƀƽƅ=1GLĜƇ>yƶǇƅ>8WoNG<E2q ƄƁ>1CFArƂƁ>sƉƁ<2rƛƁ>2qOEH=1BLt ƄƁ>1CDLuƂƁ>vƉƁ<2uƛƁ>2pOON=18Ms ƄƁ>1D3Ztל=1BUz ƄƁ>1CDGĚƈƁ<1tƂƁ>NCuƉƁ<2tƛƁ>2tƀƽƇ=1BTyƱƖV>CVyə<CTyƖծ>4RĞV>yƶǇƅ<4SzˢǇƇ>4Ppϻ<6Cs ƄƁ>1CDVtƂƁ>uƉƁ<2tƛƁ>2oOE=1C6q ƄƁ>1CERrƈƁ<1oPEH=1A6r ƄƁ>1CD4sƂƁ>tƉƁ<2sƛƁ>2sƀƖǢƅ=1PZĝV>6rEH<EWt ƄƁ>1CCOuƂƁ>vƉƁ<2uƛƁ>2oҮ=18Ir ƄƁ>1D3NsƂƁ>tƉƁ<2sƛƁ>2sƀƽƅ=1BBěƇ>E5Ġ ƍ՘Ǉƅ>FxƶǇƅ<ELoREH<3Br ƄƁ>1D30sƈƁ<1sƀƽƇ=1ASĠ ƍƽƅ>1xɗǇƅ>2xʄƅ>5UxƱV<3Hx״>CAxə<EVxƖͿƃؕƍȉʃ>65ĝ̬ƅ>93ĝV<FBĞ Ƈ>2yʹ>5HxȉǇƅ<5GĠˈƅ>5Vpξ<4Wt ƄƁ>1CDHuƂƁ>vƉƁ<2uƛƁ>2pOHINGYA ϻ=1POpREH<EZs ƄƁ>1CE3tƈƁ<1o֩=185r ƄƁ>1D38sƂƁ>tƉƁ<2sƛƁ>2sƀƶǇƅ=1B2ĢƇ>EOyˢǇƇ<EQpԻ<2Ys ƄƁ>1D32tƂƁ>uƉƁ<2tƛƁ>2tƀƽ̅ƍƽƅ=1AYy̠ɚƥɗƅ>6AyɗǇƅ<XyƱV>XyƖͿƃؕƍȉʃ<EyƶǇƇ<5XĨ ƍƶǇƅ>zˢǇˈƅ>5Spӎ<8Pt ƄƁ>1D35uƂƁ>vƉƁ<2uƛƁ>2uƀƽƇ=1DMpԀͪ>C6pгϿ<G1pԈҪ>1Loծ<37r ƄƁ>1D3EsƂƁ>tƉƁ<2sƛƁ>2sƀƽƇ=1ORxƶǇƅ<DOĢƇ>DOyˢǇƅ>MpCHEH<F1t ƄƁ>1CDWuƂƁ>vƉƁ<2uƛƁ>2uƀƽƅ=1BZzƖV>E9tEH<FUv ƄƁ>1CDZwƂƁ>xƉƁ<2wƛƁ>2pEH=17Ur ƄƁ>1D2JsƂƁ>tƉƁ<2sMARBUTA=17Tz ƄƁ>1D2IĚGOAL=1C3ĚƈƁ>1CY7tEDIAL Ɓ>4sƀə=1A4xƖTEH ƅ>FVĝV>6xƶǇǈɒ<G2rEH>1t ƄƁ>1CDFuƂƁ>vƉƁ<2uƛƁ>2pן=180s ƄƁ>1D2ZtƈƁ<1qEH=17Vs ƄƁ>1D2MtƂƁ>uƉƁ<2tƛƁ>2q̎ϻ=1OMpTEH<ELs ƄƁ>1CDPtƂƁ>uƉƁ<2tƛƁ>2tƀƖV=1Q8sEH<G6u ƄƁ>1CDGvƂƁ>wƉƁ<2vƛƁ>2oU=1C7p ƄƁ>1CEOqƈƁ<1qƀʄƅ=19ZĠ ƈƁ>1CH1pIGHUR KAZAKH KIRGHIZ ǫƼƂƁ>AıƛƁ>oVE=1CBq ƄƁ>1CERrƈƁ<1qH=1B8r ƄƁ>1CCMsƂƁ>tƉƁ<2sƛƁ>2oͪ=18Or ƄƁ>1D45sƈƁ<1sƀƽƅ=1CFěWITHIN>D7x̠ɚƥƶƅ<8IĴˢƅ<1xʄƅ<9GĢ ƄƁ>1D29ģƈƁ<1xə=1C4xȉǇƅ>5oϻ<3Kr BARREE>3Ry ƄƁ>1CD8zƈƁ<1zƀ̠ɚƥƶƅ=1H7Ļˢƅ<1Ğʄƅ<4Nĩ ƄƁ>1CD9ĪƈƁ<1sƄƁ>N5sƂƁ>tƉƁ<2sƛƁ>2sƀʄƅ=17QĢ ƄƁ>1D2BģƂƁ>ĤƉƁ<2ģƛƁ>2xƖV=1CExȓ<1yѭǇƇ>3yˢǇ̅ƍƽƅ>D3Īʄƅ<1ĪƖ̬ƅ>HpU<DUq ƄƁ>1CERrƈƁ<1oZA",
  "H=188r ƄƁ>1D3HsƂƁ>tƉƁ<2sƛƁ>2qIN=182s ƄƁ>1D31tƈƁ<1tƀƱV ƅ=1PUiɅAIN ƀǫƼƄƁ>1C9SĦƈƁ<SzɍƂƁ<1PğƉƁ<41ĞƀǢƄƁ>97ĨƂƁ>26zǢƂƁ<7DğƉƁ<41ĞƀǫƼƄƁ>99ģǢƄƁ<2ĨƂƁ>ģȆƄƁ>1QzȆƄƁ<4IĝƈƁ<SrKBAR ƈƁ>6YrLAYHAA φ<4MvE ƈƁ>4PvI φ<4WğTU WAS-SALAAM>2wM φ<2xAA φ>sEF Ƽƀ˴ǫƄƁ<55ĳƈƁ<1FvƀFATHATAN ƄƁ>66ģƈƁ>sLAH ƈƁ>50rZZA WA JALL>CqBEH ƀǫƼƄƁ<B5ĦƈƁ<2TzɴƂƁ>43ĞƉƁ<47ĝƀȆƄƁ>CBĚӁƂƁ<82ĝƛƁ>1TzɍƂƁ<1YğƉƁ<47z˃ƂƁ>48ğƉƁ<47ĞƀȆƄƁ>BAzǢƄƁ<8IĞƂƁ>1EğƉƁ<47ĞƛƁ>60z̬ƄƁ<38zХƄƁ<3zȆƄƁ>4ĝƈƁ<2TzҊƄƁ>2OrISMILLAH AR-RAHMAN AR-RAHEEM>B5qDAD ƀǫƼƄƁ<62ĦƈƁ<SzɴƂƁ<2AĞƉƁ<42ĝƀǫƼƄƁ>96ĢȆƄƁ>1OzɍƂƁ<6VğƉƁ<42z˃ƂƁ>43ğƉƁ<42ĞƀǢƄƁ>96ĨƂƁ>zǢƂƁ<55ğƉƁ<42zХƄƁ>7AĝƈƁ<SzȆƄƁ>JĝƈƁ<SqFEH ƀǫƼƄƁ<3WĦƈƁ<23zɴƂƁ>3XĞƉƁ<41zɍƂƁ>3ZğƉƁ<41z˃ƂƁ>42ğƉƁ<41ĞƀǢƄƁ>98ĨƂƁ>zǢƂƁ<58ğƉƁ<41ĞƀȆƄƁ>B4zȆƄƁ<90ĝƈƁ<23qGHAIN ƀǫƼƄƁ>6AĨƈƁ<SěɍƂƁ<1PġƉƁ<41ěǢƂƁ>41ġƉƁ<41ĠƀǫƼƄƁ>9AĥǢƄƁ<2ĥȆƄƁ>ěȆƄƁ<2SğƈƁ<SqɴƀǫƼƄƁ>WĦƈƁ<SzɍƂƁ<2EğƉƁ<42ĞƀȆƄƁ>BRzǢƂƁ<7PğƉƁ<42ĞƀǫƼƄƁ>8YģȆƄƁ<1zȆƄƁ<1QĝƈƁ<SrӁƀǫƼƈƁ<4TzɍƂƁ>3NğƉƁ<3QzǢƂƁ>3QğƉƁ<3QĞƀɍƂƁ>8WģǢƂƁ>z˴ǫƂƁ<57zȆƈƁ<3PqJALLAJALALOUHOU>BQrEEM ƀǫƼƄƁ<66ħƈƁ<SĚɴƂƁ<2IğƉƁ<42ĞƀǫƼƄƁ>B4ģȆƄƁ>NĚǢƂƁ<7QĠƉƁ<42ğƀǫƼƄƁ>B4ĤɴƄƁ<27ĨƂƁ>ĤȆƄƁ>23ĚȆƄƁ<3RĞƈƁ<SqKAF ƀǫƄƁ<3MĞƈƁ<21ĞƼƄƁ>23ĦƈƁ<1YzɴƂƁ>3RĞƉƁ<3WzɍƂƁ>3UğƉƁ<3Wz˃ƂƁ>3XğƉƁ<3WzӚƄƁ>1YĝƂƁ>1XĞƉƁ<3WĝƛƁ>4VzǢƄƁ<2XĞƂƁ>1XğƉƁ<3WĞƛƁ>4VĞƀǢƄƁ>5QĨƂƁ>7ģȆƄƁ<CzȆƄƁ<8JĝƈƁ<1YrɴƀǫƼƄƁ>68ħƈƁ<SĚɴƈƁ<6HĚɍƂƁ>40ĠƉƁ<42ĚǢƂƁ>42ĠƉƁ<41ĚȆƄƁ>78ĞƈƁ<SqӚƀǫƄƁ>DZĞƈƁ<1ĞƼƄƁ<HHĦƈƁ<1VĞƀʄǈƄƁ>J8įƈƁ<1ĩ̅ƄƁ>2įƈƁ<1ģэǈƄƁ<3įƈƁ<1zɴƂƁ<FFĞƉƁ<3UĝƀǫƼƄƁ>8XĢǢƄƁ<2ħƂƁ>1GĢȆƄƁ<1GĚӁƂƁ<50zɍƂƁ<4ğƉƁ<3UĞƀɍƄƁ>90ĨƂƁ<1ģǢƄƁ>1KĨƂƁ<2ģȆƄƁ<Ez˃ƂƁ<69ğƉƁ<3UĞƀǢƄƁ>8ZĨƂƁ>zǢƄƁ<75ĞƂƁ>1YğƉƁ<3UĞƛƁ>4QĞƀɴƄƁ>49ħƂƁ>ģȆƄƁ>10zȆƄƁ<86ĝƈƁ<1VqǢƀǫƄƁ>1VğƼƈƁ<1RĚɴƂƁ>3PğƉƁ<3T",
  "ĞƀɍƂƁ>8YģǢƂƁ>ģȆƄƁ>ĚɍƂƁ<59ĠƉƁ<3TğƀɴƂƁ>92Ĥ˃ƂƁ>5ĤǢƂƁ<5ĤȆƄƁ>1EĚ˃ƂƁ<6OĠƉƁ<3TğƀɍƂƁ>92ĤǢƂƁ>ĤȆƄƁ>15ĚǢƄƁ<8GğƂƁ>1ZĠƉƁ<3TğƀȆƄƁ>A0ĚȆƈƁ<9ZrOHAMMAD ƈƁ>BTq̬ƀǫƼƄƁ<9YħƈƁ<1RĚɴƂƁ>3NğƉƁ<3RĞƀǫƼƄƁ>95ģǢƂƁ<1ģȆƄƁ>TěӁƂƁ<65ĞƛƁ>OĚɍƂƁ<TĠƉƁ<3RğƀǫƼƄƁ>99ĤɴƄƁ>ZĨƂƁ<5ĤǢƄƁ<XĩƂƁ>ĤȆƄƁ>1AĚ˃ƂƁ<6RĠƉƁ<3RĚǢƄƁ>1QğƂƁ>20ĠƉƁ<3RğƛƁ>4FğƀǫƼƄƁ>4SĤȆƄƁ<1Ě̬ƄƁ<7HĚХƄƁ<3ĚȆƄƁ>4ĞƈƁ<1RĚҊƄƁ>1MqQAF ƀǫƼƄƁ<DĦƈƁ<21zɴƂƁ>3WĞƉƁ<3ZzǢƂƁ>3ZğƉƁ<3ZĞƀɴƄƁ>95ħƂƁ>1HģǢƄƁ<1HģȆƄƁ>1EzȆƄƁ<8JĝƈƁ<21sLA USED AS KORANIC ֭ƙƈƁ>CArUDDISA SIRRAH<4MqRADI ALLAAHU ANH<AĠAA>ĠUM>ĢAA>ġNNA>sHIMAHU ALLAAH<5yM ALLAAH>EsSOUL ƈƁ>4MrӁƀ˴ǫƈƁ<BEqSAD ƀǫƼƄƁ>5GĦƈƁ<SzɴƂƁ<2CĞƉƁ<41ĝƀɴƄƁ>8ZĦƂƁ>ĢȆƄƁ>1Vz˃ƂƁ<6VzǢƂƁ>ğƉƁ<42ĞƀǢƄƁ>90ĨƂƁ>2MzХƄƁ<4AĝƈƁ<SzȆƄƁ>IĝƈƁ<SsLAAMUHU ALAYNAA>5KuM ƈƁ>11tLA ƈƁ>3wUSED AS KORANIC ֭ƙƈƁ<9vLLAAHU ALAYHI WA-AALIH<4QyHOU ԡWASALLAM>4ZzU ALAYHI WAAALIHEE WA-SALLAM<4UrEEN ƀǫƼƄƁ<1HħƈƁ<SĚɴƂƁ<25ğƉƁ<41ĞƛƁ>7RĞƀɍƂƁ>12ěӁƂƁ<17ĞƛƁ<21ĚɍƂƁ<1NĠƉƁ<41ğƛƁ>7RğƀǫƼƄƁ>15ĤɴƂƁ<1Ě˃ƂƁ<4UĠƉƁ<41ğƛƁ>7RğƀǫƼƄƁ>35ĤȆƄƁ>TĚǢƂƁ<7QĠƉƁ<41ğƛƁ>5JğƀɴƄƁ>3BĨƂƁ>ĤɍƂƁ>ĤǢƄƁ>ĩƂƁ>ĚХƄƁ<1LĞƈƁ<SĚȆƄƁ>9ĞƈƁ<SrHADDA ƀDAMMA ƈƁ<4BĢƛƁ>41ġTAN ƈƁ<45ĜFATHA ƈƁ>1ĢƛƁ>41ĜKASRA ƈƁ<40ĢƛƁ>41ġTAN ƈƁ<45Ĝ˴ǫƈƁ>3sEEN ƀǫƼƄƁ>51ĨƈƁ<SěɴƄƁ>14ğƂƁ>7ĠƉƁ<10ğƛƁ>19ğƀǢƄƁ>1AĩƂƁ>ĤȆƄƁ>1TĜӁƂƁ<3CğƛƁ<20ěɍƄƁ>1MĠƂƁ>7ġƉƁ<10ĠƛƁ>19ĠƀȆƄƁ>1Dě˃ƄƁ<1UĠƂƁ>7ġƉƁ<10ĠƛƁ>19ěǢƄƁ<HĠƂƁ>7ġƉƁ<10ĠƛƁ<ZĠƀ˃ƄƁ>3KĪƂƁ>ĥǢƄƁ>ĪƂƁ>ěХƄƁ<1WğƈƁ<SěȆƄƁ>CğƈƁ<SrUBHAANAHU WA TAAALAA>73qTABAARAKA WA-TAAALAA<4WsH ƀǫƼƄƁ<1PĦƈƁ<SzɴƂƁ<1PĞƉƁ<42zǢƂƁ>7GğƉƁ<7GĞƛƁ>7MĞƀɴƄƁ>1IħƂƁ>ģǢƂƁ>ģȆƄƁ>zȆƄƁ<2QĝƈƁ<SrӁƀǫƼƄƁ<3MĦƈƁ<2TzɴƂƁ>42ĞƉƁ<46ĝƀɍƄƁ>90ħƂƁ>ĢǢƂƁ>ĚӁƂƁ<4UĝƛƁ>1QzɍƂƁ<1VğƉƁ<46ĞƀǫƼƄƁ>B8ģǢƂƁ<28ģȆƄƁ>26z˃ƂƁ<70ğƉƁ<4",
  "6ĞƀǫƼƄƁ>B8ģǢƂƁ<26ģȆƄƁ>24zǢƄƁ<8FĞƂƁ>1DğƉƁ<46ĞƛƁ>5WĞƀǫƼƄƁ>5CģɴƂƁ<26ģɍƂƁ<1ģ˃ƂƁ>1ģȆƄƁ>23z̬ƄƁ<8GzХƄƁ<3zȆƄƁ>4ĝƈƁ<2TzҊƄƁ>2OrHAL ƀ˴ǫƈƁ<MsӁƀǫƼƄƁ>UħƈƁ<2VĚHEH ƛƁ>5UĚɍƈƁ<5XĚǢƄƁ>2UğƂƁ>19ĠƉƁ<44ğƛƁ>5UĚ̬ƄƁ<30ĚХƄƁ<3ĚȆƄƁ>4ĞƈƁ<2VĚҊƄƁ>2QqUIGHUR KIRGHIZ ȆƀʄǈƀǫƼƄƁ<3HņƂƁ>ŇƉƁ<2qWASALLAM ƈƁ>E6qȆƀǫƼƄƁ<9VĦƈƁ<1OzɴƂƁ>3LĞƉƁ<3PĝƀȆƄƁ>9JěMZA ǈƀAE ƄƁ<CHĭƈƁ<1īLEF ƄƁ<1įƈƁ<1įƼƄƁ>3HķƈƁ<2TĪE ƄƁ<CĬƂƁ>ĭƉƁ<2ĪɴƂƁ>4HįƉƁ<47īӁƂƁ>49ĮƛƁ>1WĪɍƂƁ<21İƉƁ<47Ī˃ƂƁ>48ĪǢƄƁ<1FįƂƁ>1FİƉƁ<48įƛƁ>64Ī̬ƄƁ<3CĪOE ƄƁ<38ĭƈƁ<1ĪХƄƁ>35ĪU ƄƁ<37ĬƈƁ<1ĪWAW ƄƁ<1ĮƈƁ<1ĪȆƄƁ>3EĮƈƁ<2TīU ƄƁ<FĭƈƁ<1ĪҊƄƁ>34ĚӁƂƁ>3CĝƛƁ>IzɍƂƁ<NğƉƁ<3PĞƀȆƄƁ>9Lz˃ƂƁ<5VğƉƁ<3PzǢƄƁ>1NĞƂƁ>21ğƉƁ<3PĞƛƁ>47ĞƀǢƄƁ>4RĨƂƁ>ģȆƄƁ>Iz̬ƄƁ<7WzХƄƁ<3zȆƄƁ>4ĝƈƁ<1OzҊƄƁ>1JqZAH ƀǢƂƁ>12ğƉƁ<41ĞƛƁ>7MhэWAAJIB=1P8mH ƅ<G9jRK ̬ל>4mSIDEWAYS ̬ל>IUjTHEMATICAL ѣ>2NTBvLEF<Fuּ>u׋>NwL<Mvּ̤>OĜԐ>1Ĝξ<1ĜҮ>1wUBLE-STRUCK ѣ>3ZĢּ<EĢ׋>NĤL<MĢԐ>CĢѪ>AĢҩ<KĢҒ<5ĢKHAH>KĢ֗<CĢӟ>Ģξ>ĢҮ>4ĢREH>Ģ֩<2ģԻ<3ģӎ>5Ģծ<CģEH>Cģן>2ĤEH<2Ģͪ<HĢϻ>3ĢZAH>GĤIN<KuԐ<46uѪ>Auҩ<KuƂѣ>13Ĝּ<EĜ׋>NĜԐ<9ĜѪ>AĜҩ<KĝEH<3ĜҒ<2ĜҪ>7ĝҩ>CĜ֗<CĜӟ>Ĝξ>ĜҮ>4Ĝ֩<1ĝԻ<3ĝӎ>5ĜTEH>ĝHEH>Ĝϻ<DuҒ<13uҪ>7vҩ>Cu֗<CvOOPED ѣ>3NĜLEF<Fěּ>ě׋>NĝL<MěԐ>CěѪ>Aěҩ<KĜEH<3ěҒ<2ěKHAH>Kě֗<Cěӟ>ěξ>ěҮ>4ěREH>ě֩<2ĜԻ<3Ĝӎ>5ěծ<CĜEH>CĜן>2ĝEH<2ěͪ<Hěϻ>3ěZAH>GĝIN<Kuӟ<3Euξ>uқɴƀDAL>6BĝǢƀɴƀTATWEEL<1uҮ<66uREH>u֩<2vԻ<3vӎ>5vTRETCHED ѣ>2IĞּ<EĞ׋>Nğּ̤>2ĦԐ>1ĞԐ<EĞѪ>AĞҩ<KğEH<3ĞҒ<2ĞҪ>7ğҩ>CĞӟ<BĞξ>ĞҮ>4Ğ֩<1ğԻ<3ğӎ>5Ğծ<CğEH>CğHEH>Ğϻ<DĞZAH>Guծ<36wILED ѣ>1Yě׋>9Ĝ̤ξ>3ģҮ>1ěѪ<4ěҩ<KěҒ<5ěKHAH>Kě֗<Cěξ>1ěҮ>4ě֩<1ĜԻ<3Ĝӎ>5ěϻ<BvEH<1Gvן>2wEH<2uͪ<Huϻ>3uZAH>GwIN<KhƹǴƅ=16ToƏ<5hȠDAMMATAN>KWmFATHATAN<1mKASRATAN>1hУƏ<I0iIASTRE Ǵƅ>FAiLACE ȕSAJDAH<BSiOETIC γƏ<63jUND Ǵƅ>HThǗƕ<",
  "HDhɕјɑ>H4jY<HSi̋Ҽ>2Ciɶˤƅ>IIĜ ƀɑ>4xƇ<3i՜ʎ֭ƀFILLED ț<EMh˜<5TiHADDA>1Hn ƈƁ>1D0QoƛƁ>iλԡASSALLAM=175mMISRA<2mRADI ALLAHOU ANHU>3oHMATULLAH ALAYHE<1mSAFHA<FoLLALLAHOU ԡWASSALLAM>CoMVAT<CoNAH<3nINDHI υ>6ZtPOSTPOSITION MEN>mTAKHALLUS<6IiȸҼ>4nטϻ>J3pTHA<J5nʎѣ>JHsDOTLESS ̌ȕKHAH<DXsטϻ>DKtOOTNOTE ͡>LsҒ<EEsӚϿ<1tɅǫƀӚƀϻ<5FěQAF ƀӚƀǫՕ>5CěSAD ƀӚƀǫՕ<1sMADDA>DtEEM ƂƁ<CyƉƁ>9sξ>5w ƀЕ>DRsҮ<1sάǚ<E0s֩>DXtԻ<E1tλSAFHA>ECsծ<JWtѭʃ>5HsUPRIGHT գǚ>4sͪ>EQtORD AL-JUZ<2JyN-NISF>1VyR-RUB<8yS-SAJDA>6yTH-THALATHA<1xQIF>3xSAH<IzKTA>GxWAQFA>1sϻ<E0v BARREE ƀȉǇƇ>DFsZAH>1uIN<JAnЕ>2n˗ӟ>5Ur̬ƀЕ>DNrSEEN<DYrͪ>DRsORD IMAALA<1LxSHMAAM<1wTASHEEL>1nͪ<C6nϻ>iTART ȕRUB EL HIZB<8iϙϿ<3SjKUN<4m Ƈ>HPnƈƁ>1CJ1nƛƁ>jPERSCRIPT ǫMOKHASSAS=1P9i̿ƽƅ>1C0KsƇ>qȔƊ̄Ƈ>8oɗǇƅ<2yƇ>oə>3oƖؕƅ>yƇ>oƶǇƅ<BzƇ>zƦǔƅ>ĬƇ>pˢǇƅ<5xƇ>xˈƅ>7ĢƇ>oWASLA ƅ>3hTAIL FRAGMENT>J4jTWEEL=18Go ƀFATHATAN ƅ>1D0WuOVERSTRUCK ӌ=1OJğͪ>uȉǇƇ>iHOUSANDS ǰ<EXiǮLOOP ƅ>HRrƇ>2mǮƽƅ<5uƇ>2mȉǇƅ<2vƇ>2iїƽǯƕ<K0i˸DAMMA Ƈ>JOhƊȓ<2DiΨƙƽƇ<FMsƱƖV ƅ<1sƖV ƅ<1h҉ʄƇ>4hZWARAKAY<6g-INDIC CUBE ROOT<2BnƥƬ>2Ptǉ<3uȐ<1tǊ>4tǛ<8tƪ>5uIX<1tƤ<3uWO<1tǚ<2nFOURTH ROOT<2HnPER MILLE Ə>1rЭңƏ>cC>5QFcIES>MTcMENIAN Ǎƕ<6I1kϒ<5jƢƃAYB<15yBEN>yCA>BzHA>AĚEH<6zO>DyDA<TyECH>zH>1zT>yԐ>TyGHAD<KzIM<FyHO>CyINI<5yJA>5zHEH>9yKEH>8ĚN<LyLIWN<3yMEN>7yNOW>1yOH>EyPEH<BzIWR>8yRA<7zEH>3ySEH<3zHA<6yTIWN>7zO<MyVEW>KzO<6yXEH<ByYI>7ĚWN>CyZA<SzHE>3kOMMA>YjDRAM Ə>1DjEMPHASIS ƕ<1Gkˉƕ>jǻǽ>18jΛ>j˘ƃƜƻə<1DjǗƕ>4jƖƃAYB>2wBEN>wCA>BxHA>AyEH<6xO>DwDA<TwECH>xH>1xT>wԐ>TwGHAD<KxIM<FwHO>CwINI<5wJA>5xHEH>9wKEH>8yN<LwLIWN<3wMEN>7wNOW>1wOH>EwPEH<BxIWR>8wRA<7xEH>3wSEH<3xHA<6wT",
  "IWN>7xO<Mx˸AYB<9wVEW>TxO<6wXEH<BwYI>7y ƀƋ>IyWN<6wZA<SxHE>3qɅECH YIWN>SyMEN ECH>1CI4ĜINI>ĜNOW<2ĜXEH>3yVEW NOW<1cROW Ʀǔ҇CURVING ˖=852Ħ̼>pƔ҇CURVING ɒ<2ħˍWEST>2JJVħΉ=850pȅ҇ɩWEST>2JJVfHEAD-SHAPED ա>LBcTICULATED LORRY<105eST PALETTE<KZbSCENDING NODE=7IIdIA ƌ>17DDcSERTION=6UEcTERISK=16i Ǆ>6P8hM<D1dONISHED Ǒ>2KTRdRAEA=8NTeONOMICAL ȗʼURANUS<ZBcYMPTOTICALLY ƫTO<WVbTHLETIC SHOE>2K2JcOM ƌ=7MJbUBERGINE>2IZUcSTRAL Ə=6GJcɊRICKSHAW>2KW6eMATED TELLER Ք<LVfOBILE>J3bVESTAN Ǎƕ<1AHQiƃA<1LqA>rN>3rO<2qE>2rE>qN<3qO<2pBE>TqHE>pCE<ApDE>3qHE>pE<KqE>pFE>LpGE<BqGE>qHE>pHE>UqME<CpI<TqI>pJE>ApKE<8pLE>TpME<6pNE<3qGE<3rVE>1rYE<1qNE>3qYE<1pO<SqO>pPE>IpRE>EpSE>1qHE>1rYE>1qй>pTE<RqHE>qTE>2pU<FqU>pVE>SpXE<RqVE>1qYE<1pYE>OqYE<1pZE>5qHE>1cOCADO>1B1AbXE>8XaBABY<17He ANGEL>5fBOTTLE<74fCHICK>4Nfƌ>IFcCK ȕ́<8QfƀƾǦƅ<2Xe-TILTED ˝ƨƔƆ=7U3eɼˍǦƀՈȓ>Q7ğҞȓ>1fPACE=8dON>2RT6dTRIAN CAMEL<10OcDGER>12TdMINTON RACQUET ƍSHUTTLECOCK<149cGEL>12UdGAGE CLAIM<IZdUETTE BREAD>I9cLINESE ADEG ADEG=5DWjCARIK PAMUNGKAH>OrREREN>1pSIKI<1jƥƬ<6pǉ<3qȐ<1pǊ>4pǛ<8pƪ>5qIX<1pƤ<3qWO<1pǚ<2jƃAIKARA<1SrKARA<Bv ˶>r˅JNYA>1XrSYURA ϕ<1qBA<Ys KEMBANG>qCA<Is LACA>qDA>As MADU>uURDA ALPAPRANA<6zʣ>qEF ϕ>13rKARA<1LqGA>5s GORA>qHA>SqIKARA<18v ˶>qJA>Hs JERA>qKA<8s ʣ>sF ϕ>1CrHOT ϕ>qLA<Os LENGA<Xy ˶>qMA>SqNA<5s RAMBAT<5rGA<ArYA>4qOKARA<Bv ˶>qPA>Ks KAPAL>qRA>4s REPA<Yx ˶>qSA>11s SAGA<2vPA>qTA<Fs LATIK<5tMURDA ʣ>tTAWA>4rZIR ϕ>ZqUKARA<1Qv ˶>qԆϕ>1QqWA<QqYA<3qZAL ϕ>Tj͊ȗɥBENDE>13ĢENDEP<6ĢGONG>6ĢՍ<4ĢKEMPLI<1Ĩ ƀՍ>2ĦUL<4Ĩ ƀՍ>2ĢTEGEH<5yDAENG<4Ě֓>1ĚNG<5Ĝ GEDE>5ĝSURANG<5zENG<3Ěأ>5z֓<2",
  "zONG<5zأ>1yLEFT-HAND ʊPLAK>MīUK>ĢȠPANG<3Ĩ֓>3Ĩأ<3yRIGHT-HAND ʊTAK<2īUK<1ģȠDAG<1ĩUG<1jPAMADA<Pp LANTANG>YmENENG<UlNTI<6o LANTANG>YjƙBISAH<3DoCECEK<2oREREKAN>1DoSURANG<1DoULU CANDRA<2sRICEM<1jƷƙLA LENGA>1NĜ ˶>uPEPET>4z ˶>uRA REPA<9ě ˶>uSUKU<3y ILUT>uTALING>4Ě REPA>ğ ˶>1ě˶<1vEDUNG<BuULU>x SARI>jWINDU>10dL ȕYARN>2MJDeևSHOES>3DeOON<1D4h-SPOKED ǂ=7RDfT ΐ˰X>2JE4jX=7IOk ƀBALLOT>2JMQrӧվ>5v˰X<2qվ=7IPqȡX>14Bq˰X>2IIFqX=7IQh˰X>2JMPhX=7PZcMUM ʍ>P98iЗǴKOQNDON<4vTUKWENTIS>jMA>3gǻǽ<2gƃA<2BnEE>3nFAAMAE>20oEE<YoOM>DoU<1nI<1BnKA<8oEN>1CpT<NpUX>8oI>WoO<6pGHOM>FpVUU<1oPA<5oU<1YoYEE>MnLA<GoԺ>3oI>19oOQ>1oU<HnM<QoA>1BoBAA>3pEN<7oԺ<1DpN>1EoI<KoO>NoU<1DnNA>11oDAA<16oGA>ZpGA<1pKWAEN<1oI<4oJAEM<TpEE>JpҰ<8oѿ>4oTEE>3pUU>ZoU<1ApAE<1oYI<KnO<1nPA>3oEE>UpUX<5oHASE-A FIRI>127NvGBIEE FON<1KwHEUAEGHEUAE>Věԛ<5vKAFA>AxQ>14wET<TxUKEUTNDA<WwPOQ>13wUOQ<6vLAPAQ<UwևKUT>wOMMAE>VwU>QxAEP<10vMAEKEUP<LyM>1FzBGBIEE<1VzKPEN>VzVEUX<TyNYI>ZySI>JxNSUAE<1JxP PIEET>19wBANYI>AyQ>DwEUNJOMNDEUQ<1DwGBASA<1wʾNGGEUAET<6xOMEUT>NzPUQ<GwVEUAENGAM<MvNAA MFON<CxQ>28wDA ӛ<18yANGGEUAET>AwEN>VwGANGU<1ZxGEN>1JxKUE MFON<1XĚNZEUM>LwIKA>LwJAM>QwKAARAE<4xINDI<1Bwѿ>1Oy֒<4wTAP<Ez MFAA<12ĚNTAA>8xOQPEN<GwYET>1IxI>5yT MONGKEUAEQ<EwZA MFON<1MxUN MEUT>NvPA ӛ>8xAM>Zyԛ<AxMSHAE<11xSHAE<2wET>EwʾMFON PIPAEMBA<13ĤGBIEE<1zPA NJI PIPAEMBA>7ĦGBIEE<1wUP>ZvROM>CvSEUNYAM<15wHINDA PA NJI<9yԛ>1HxOQ NSHUT YUM>1xUENSHUET<1NyM>1DwISA<KwONJAM>CxQ>BxT>EwUU<1IvTEUAEN>1GyTEUWEN<PwITA MFON<17wU MAEMBA>5xAEP>XvU YUQ NAE<EwNKNOWN>ZvVEE>DtB FEE>1ExUX<2vGHEUGHEN<KĜUAEM<9vKAM<6wֈ>11y",
  "PUQ<OyYEUX>1wIEEM<JxQ>1BvLAANAE<SxM NSHUT NYAM<EwET>11wOM NTEUM<1AvMA>1Cx NJEUAENA<5ĚUQA>wBA MAELEE<18yARAE>2xEURI>UxIT MBAAKET<IxUOQ>NwEUQ<ByT NGGEET>8wFIYAQ<6xʾTEUAEQ<HwONTIEEN>JvNDU NJAA<QwGGAAM>10yEU MBU<LyUOQ>4ě ș>xKINDI MVOP<7xOM>PwSEN<3xHUET<1GwTIEE SHEUOQ>CwYAEMAE>RxI NTEUM<JvPARUM>4wEESHI<HwIT>5wUNGAAM>PvSAKEUAE<AwևTU<TwHET NJAQ>EyUAEQTU>w֒<HwUE>ZvTAAM<5wU MAEMGBIEE<WyNSIEE>FvVEUM>AvWUAET>2vYAFU ӛ<KwEURAE<4tC BUNG>2PvFUE<4vGBAYI<10wHAP>7yԛ<AvKAA>IwEN FATIGUE>1SzLAW<1xT<WxUKAQ<14yM>1SySEUX<2zHEUAEP<1TwPARAQ>8wUOP NKAARAE>18xT<7v֗<9xP<FwIQ>1IwU<WvMA KEUAERI<QyNSIEE>10xEMBA>5ySI<JwBAA CABBAGE-TREE<19ĚPICKET>1WyNYI<4xEEKEET<20yԛ>16yUM<13zX>1XxI<4yRIEEN<12yT<HxUAEM>11yE<14wGBASAQ>Jw֒>19wҰ>vNANSANAQ<1HxQ>1LwDAM<LyP>2xEUAEREE<1YzT>14xIDA<IxOMBU<EwGAQ>25xGEN<2GyU>1IzAEN NYAM<QzEET>XzM<NzON<6xKAQ<WyUE MAEMBA<6xOM>1SwJAEM<CyM>AxԺ<7yUX>SxUEQ<1KwSA>GxEUAEN<PxHAQ>PxOM>JxUN>2ỵNGOM<FwTAA<JxEN>VyUNGBA<RxU MBIT<VwYIR MKPARAQ MEUN<1wZA<9xEUM>IvPEN>23wIN<1xRIEEN<2AvRU>12vSETFON>OxUX<1EwHIQ>1PxUEQ<DwUAET<18vTAASHAE<3wET>1VxUTEUX<1IwITA YUE<CyUAEP>NvVEUAEPEN<5yX<GvWANGKUOQ<VwUP>1QvYAA>7wEUQ<1EwU MUOMAE<5xM<HxWOQ>2AtD FAA>3KwEUFEUAET<29vGHAA<2xEUAE>1HvKET<1WxUAETMEUN<5yM>12ỵMBUAE<NyP>SwU>SxN<FxOM<1GxQ>1KwWAET<UwYEE>1GvLEEEE<7xT<VxUAEP<PyM>18w֒<26wOQ>2WwUM<1TvM>1EwAENJET<FxLEERI<1KwBAA>Lz ƪ>1UxUO<36wԺ>2MxUN<IyT<1FwFEUAE>UzT<Yx֒>15xO<LyN<15wGBEUN>11y֒>1yOFUM<6wONI>2wU>1LwVOP>AvNDAM<13xEE<YyUX<CxON>EwGGAAM>OěAE<1KzP>21yEUX<8yUOM>9yWAEN<IxKAP<1HyEUAEQ>16ĚRI<Py֒>17yUN<1SyYEE>MwI>1ZwJAP<2Hxֈ>",
  "BzT<NxI<4yEE>1xUEQ>29wSHEE<27yUT>25xIEEP<13ĚT>BxUM>KwTEE>OyUM<XxUU>15wU<BwYAM<2LxET>13xI>16xUE<UvPAP>5wEE>10xUTAE<18wIP<1wUQ>1BxUT<1UvRAEM>BwEN MUCH>1KzOLD<MwII>3vSAP<1ZxQ>2KwEUAEQ<2GwHEE<FyҰ>3zX>2BxII<1xOQ>7xU<4wOT<1GwҰ>KxE<1IxU>26vTAE<7wԺ<ZxUAEN<5yN>TyT<1TwI>2OwOQ<LwU<1NxOT>17vWAP<23wUAEN>8vYAEMMAE>9wEN>7wUOM>12yP>1xWOQ<HtE A>4VvFA<QxQ>1XwEE<MwOM<OwU CALL<1yI<AyREMEDY>18xE<1TyT>FvGBET<RyUX>BwHAAMAE<JxET>NyҰ>CzN<1EzX<DxOM>3DvI<16vKET<XxҰ<TyX>23wI>NwO<5wPEUX<3PwUET>1IxOP<1DxT>29vLAAM<19xP<1IxQ>33wֈ<12wOM<1KxON<GyT>WxQ>2ZwU<BvMA>DxE<1VyM<1MxP>CxQ>34wBEE<2EyUM<1QwEN>41wFEUQ<23wGBA<14yEN>TwI>20xEE<17wON>1NwҰ<1LwVI>2vNA>18xE<1DwDAA MY HOUSE>NĚSOFTNESS<23yP<18xIAQ>21yQ<YxUN<UwGA>3LxEUREUT<27xGEEEE<MzҰ>1DĜT<20yUAESHAE NYAM>RzP>1Ozԛ<22xKA<JzAMI>1Xyֈ<1CĚX<AyUM>23zP<LxOP<1LyQ>2xҰ>2NĚT>GwJAEMLI<2VxEE>21z EPOCH>JyUX<2TwKOM>10wSHIEE<18yUE>4zOP<IwTAP>2MxUM<IwYI ̟>3zCLEAVER<JwZAQ<6xUQ>PvO>LvPA PEOPLE<6zLURAL>8xA<32yM>BwEEM>BxUT>1KyX>15wI>FxEEQ<1YyT>RwO<1HxON>15wU<YxAE<1ByQ>2GxE>UxM<2Gvԛ>2MxQ<3MwEUX>3KwIMGBA<31vSAA>2wEE<FxT>PwHEUAEQ>JxIQ>1LxO>KyQ>wOM<3RwUAEN>19vTAA>1RyQ<1MxEN NTEUM<IxM<TxQ>2XwEN>ZxU<3yAEQ<2PwOO<ZyN<IxQ>32wҰ<1SxM>JyAE<HvVEE>2AxҰ<27wOM<1FvWEUX>1FwUE>23xO<39vYAP>1IwEUAE<LĚT>1JyM<HyX>Ww֒<23xT>PwOQ COVER>1GzSWIMMING<1wUAEN<1xEQ<1BxN>1ExQ<1tF EE>XvFOM>10vKA<14wEN>YxT<FwO>NwPA>6wU<1DwYEE>GvLA<CwI>YwOQ>vM<TwA>WwBAA>1xEN<4wԺ<ZwO>11vNDAA<10wGGA>OxKWAEN<1wI<3wJAEM<KxҰ>9wѿ>3wTEE>1wU<7xAE<1wYI<FvPEE>OxUX<3wҰ>Avӵ<ZxN>15xUX<Cw֒<PxI<1wU>NvSAMBA>JwEUX<YwHII<2xO>LxU<DwI<8wUU<2vTAA<4xE<6wET>1",
  "8vU<1DvVUEQ>1FvWA<CwUE<BvYA<4wOQ<2oI=WYLoҰ<6pE<Fnԛ>8oEE<18pN>1NpUX<Ho֒<ZpI<1oU>VnSAMBA>VoEUX<1FoHEUX<1pII<2pO>VpU<MoI<9oUU<3nTAA<4pE<AoEN>1VpT<2oI<4nU<1UnWA>1JoUE<HnYA<7oOQ<3oUQ>1gNJAEMLI>1CgǗƕ>4g˜<1cNANA>1TN9dJO>1FSdK<1BJeӣƀDOLLAR Ə>5QoEURO Ə>oPOUND Ə>oYEN Ə<3cR CHART>LeȕSOAP>10XdBER POLE<12ScSEBALL=7NIdKET>2KAJgBALL ƍHOOP<18AdSA VAH ɥʎʻ<R0Wy-LOW ʻ>3u˗ʻ<3x-MID ʻ>1uMID ʻ<1kǻǽ>2kƃA<ErBA<5rCE<3rDHII<8sO>6rE>DsE<1sNNI<RrFA>2rGAH>2sBU>6rHWAH<3rI>IrJO<KrKA<8sPAH>6rMBE<4rO>JsO>rPA<4rSE<JrTO>ErU>8sWU<ArVU>2rWA<8tDDA>ArYEIN<2sIE<FrZO>6cT>S6IdAK ȏƙH=5IPvNG<1gƃA<1CnBA>4nCA>RnDA<GnGA<3nHA<CnI>XnJA<KnKARO BA<AnLA>NnMA<ApNDAILING HA<GyNA>5ySA>FoBA>8nNA<QoDA>OoGA<5oORTHERN TA<6oYA>8nPA<PpKPAK WA>5nRA>4nSA>5oIMALUNGUN A<NyGA>DyHA<CyLA>RyMA<AyPA<DyRA>AySA>5yWA<DyYA>FoOUTHERN TA<6nU>EnWA<QnYA>FgPANGOLAT>MjONGONAN>gƙTOMPI<Dhֽ̿JUDUL>NtNA METEK<2tPANGOLAT>2uINARBORAS<2gƷƙE<MsE>1rI>rKARO I>wO>1rO<1rPAKPAK E<4rU>5s ʼSIMALUNGUN SA>dH>2LSGeTUB>dTERY<C6bEACH ƀUMBRELLA<8LdMED ASCENDING ͊Ӥ<1Mhք͊Ӥ>hȥӤ=7L7hSIXTEENTH Ӥ>dNS>2KIZdR Ǒ<1B1eDED ͣ>13SdTING ˽<11DdVER>107cCAUSE=6R9cD>2KK9cחMUG<NPdTLE>1FBcL=7dL>2QZ0e PEPPER>14Sfƌ=70EfƀθƋ>2JYUeHOP BELL>C8cNGALI ǍƏ=1Z1jNJI<3HjU ɔƕ>2EiCURRENCY DENOMINATOR SIXTEEN>Xr׼̂<2ěǛ<3Ğ LESS THAN ̽DENOMINATOR>3ěƤ<2ĜWO<1iƥƬ<7oǉ<3pȐ<1oǊ>4oǛ<8oƪ>5pIX<1oƤ<3pWO<1oǚ<2iGANDA ƕ>KiISSHAR<1iƃA<39qA>qI>9qU>3pBA>NqHA>pCA<JqHA>pDA>AqDA<5rHA>qHA>4pE<OpGA>7qHA>pHA>WpI<1EqI>pJA>JqHA>pKA<8qHA>sNDA TA>1JpLA<SpMA<4pNA<6qGA<FqNA>9qYA<5pO<BpPA>MqHA>pRA>4r ƀƿː>1SxƑː<1qHA<JqRA<1pSA<10qHA<2qSA>pTA<JqHA",
  ">qTA<6rHA>pU<NqU>pVEDIC Ƹ>35qȳL<34yL>2CxR<2EyR>2CpYA<1DqYA>1Biϲƕ>IoƏ>iѽƕ>AjλƸ<3Goɾ>1Mnǃ<1Onɹ>1MnǤ>Gpɟ<22iƷƙAA>1MuI>9uU>3tE<5tI<8uI>tO>AtU<AuU>tǪL>VĜL>ěR<WĜR>dT ǦƦǔ҇ɩEAST>6MXeO Ԫ>2I36dZENE ə=6Y4m ƀƵ>52cT ƌ<J1dWEEN>8LcVERAGE Ԫ>2L3QbHAIKSUKI Ȱ<17R6l˿Ƭ>Mqǉ<3rȐ<1qǊ>4qǛ<8qƪ>5rIX<1qƤ<3rWO<1qǚ<2lȌȰ<EkGAP FILLER-1>1v2>kHUNDREDS UNIT ƕ>12kƃA<30sA>sI>9sU>1rBA>MsHA>rCA<IsHA>rDA>AsDA<5tHA>sHA>4rE<MrGA>5sHA>rHA>SrI<18sI>rJA>HsHA>rKA<8sHA>rLA>PrMA<3rNA<5sGA<FsNA>9sYA<5rO<BrPA>LsHA>rRA>4rSA>4sHA<2sSA>rTA<FsHA>sTA<6tHA>rU<LsU>rVA>10sȳL<YzR<2ĚR>rYA>VkƹƬ>1LwY>8rɲ<3tVE<9sΦ>7tUR<9rǊ>4vTY>8rǛ<Hrƪ>5wTY>8sIX<AuTY>8rʚ<5s˾>1tӵ<9sȽ>7tO<9kƙƸ<Uqɾ>2pǃ<4pǤ>2rɟ<1kƷƙAA<FwI>9wU>1vE<3vI<8wI>vO>8vU<8wU>vǪL>2ĝR<2ĞR>kдǰ>DbICYCLE>175AgIST>1cG ʷˆ=8AHeˆ<1cKINI>2IJKcLLED CAP>13CeIARDS<181cOHAZARD Ə=7J7cRD>2J9EdTHDAY CAKE<4KcSON>17TcTCOIN Ə=6GVdɜLIP>2LNQbͲBOWTIE=89Fgɠƨȩ<IVhHESS Ϟ<5Rs ǨȈƴ>2KDWěȉǕȒƴ>15mт>Cw ǨȈƴ>2mҕ=7KQq ǨȈƴ>2KDWzȉǕȒƴ>15nώ=7KUs ǨЏƴ>2KDKěȈƴ>BěǮǕϷƴ>8ěƶǕЍƴ>15ĜˢǕȒƴ<9ħϸƴ<Cs-BISHOP>Xtϔ<2tҠ>m՞=7KVq ǨȈƴ>2KDWzȉǕȒƴ>15mϔ=7KRr ǨȈƴ>2KDWĚȉǕȒƴ>15mҠ=7KSq ǨȈƴ>2KDWzȉǕȒƴ>15m˷Ϟ<Ktҕ<3uώ>3t՞>tϔ<4tҠ>hIRCLE=7GVm ʼRECORD<D1nƀǱƆ>16Asȉƨʃ<O4sƨƽƩ<1hLUB Ң<11h֧ʾSHIELD>3OhURVED ǔƍƾƆ>XRěƔƆ>nƾƍǔƆ>4ěȅƆ<2nƔƍǔƆ>2ĜȅƆ<2nȅƍƾƆ<3zƔƆ>gǺ<15Xn ΁>16IoяƨX<VFoʾȺ>W7oҢ<12WoƀǱƆ>OZh؁ƦʠǼ>2IT4kȬƗƧ=73GuΞƐƧ>2KD2uƖƧ=7GEuƧ<2kȢǁƞ>15UhRAUGHTS ҕ<YKpҗ<1iOPLET>2IXRgу=7M9iORETTE>4ThOLDER>2JCViUR ǲȩ=7QEg֎ɈՀ׏>2JCZhEART<6l Ң=7L1iXAGON>XOhˬѧ>9iճ<9HgȷƵ>98mǋ<9hҎLANE MERGE<UBlƦʠǼ>2JERuǼ=7IYkȬƗƧ<FKģ ƀƊȊ>3uΞƐƧ>2KCXuա=7GKuƖƧ<2uƧ<2kȢ̇<12Sqǁƞ>28FhϐƜƧ<14PmƐƧ<1iZENGE>SOgǙǺ>8PoOWN-",
  "POINTING Ƨ<1F2ģ ΁>1JInΠƧ<1JMģ ΁>1JMoOZENGE<4GnʗƧ<1F6Ĥ ΁>1JMnƖǺ>2ITSt͈>5tǋ=7I6oϓ<2nUP-POINTING Ƨ<EEġ ΁>1JIhOON LILITH<ZXgNIB>2HgOCTAGON>XDgԚ<178hENNANT>2JB5jTAGON=8INhUSHPIN>2IJSgǗǴƭ=7RNgͤ<BRhɶƦʠǼ>2JN4vǼ=7IZlȬƗƧ<FMĤ ƀƊȊ>3vΞƐƧ>2KD0vӮ=8K3wOINTER<13TvƖƧ<2vƧ<2ĝ ƀƗƊȊ<CNlȢƆ>Q9wҐ>2ṙ<1G7rǁƞ>28GhOSETTE>2I53gSAFETY ή=7PChCISSORS>1hHOGI ϑ<6JhKULL ƍ׉>2JIXhLIGHTLY ƖƵ>EQvǋ>8hȸǺ=8IXm͈>mǋ<134nؗ>146iILING Ǒ<106hNOWMAN>3VhPADE Ң<2Vhϓ<5Cm ׂ>2JKHn΁=8N4nʼǽ<1JBhؗ>EJhUN ƀRAYS<5gϘ>DhINY Ǻ>2JYGl͈>5lǋ<HhOUCHTONE Ϙ<ELhRUCK=7OFhWO-WAY ƜWAY ձ<9gUNIVERSAL ؊ƌ<2JhP ƦʠǼ>2JHIiȬƗƧ=73FsΞƐƧ>2KD1sƖƧ=7G4sƧ<2iPER ƜƧ>1DmƐƧ>iȢǁƞ>14NgƊѧ<33pͤ<134jY ƖǺ>2K15r͈>5rǋ=8ILfϼɩɱƆ<O7qƔƆ<1qˍɱƆ<1gƃƢC<1AFvH<XvI>4vR>AvZ>BdNK ƌ>L5cOCK SEXTANT-1>2L0Dp2>1q3>3r4>7s5>Es6>Er5<Ns6>Ur6<Fq4<Rr5>Es6>Ur6<Gq5<Mr6>Tq6<Fp3<Tq4>7r5>Es6>Ur6<Gq56>7q6<Fp4<Rq5>Er6>Uq6<Fp5<Nq6>Tp6<Fo2<Up3>3q4>7r5>Es6>Ur6<Gq5<Nr6>Uq6<Fp4<Rq5>Er6>Up5<12q6>Tp6<Fo3<Tp4>7q5>Er6>Uq6<Gp5<Mq6>Tp6<Fo4<Rp5>Eq6>Up6<Fo5<Np6>To6<FdSSOM<1K2dWFISH>6CcUE ԩ>52f˽<1ReBERRIES>186bOAR<1BTc׮ʯȨǂ>PXfɖȨǂ<Cf˩Ⱥ<Df˯>6gԔȨǂ>BfƨƵ<1Dlǋ>9cM<1D3LdB>1CIRcNE>100cOK<UEeƕ<2Gi TABS<1XeS>8dMERANG>148cPOMOFO ƄƃG=9TNwH<4wK<1wP<2wT>jƃA<4BrH>4KrI<4HsNN>3ZrM>1rN<3YsG>1sN>3OrU<3TsNN>3YqB<4QrU>4AqC<3SrH<4qD<BqE>IrE>3RrH<3RrI>1rN>3sG>1sN>3JrR<3JqF<UqG>4rH>4QrN<3WrU>3ArW>OqH<4TqI>NrH>5rM>3IrNN<2tN>8rR<BrU<3JqJ<PrI>41qK<44rW>4UqL<4XrH>4SqM<4YqN>3rG>VsG>3LrN<3IqO<Kr ƀƽƅ>IrE>3ZrM<DrNG>sN<BrO<1rU<3PqP<RqQ>AqR>4qS>2rH<4qT<BqU>TrNN>3MqV<3LqX<OqZ>4rH<4rI>3XrY>OcTTLE ƀPOPPING CORK>2GUBeOM ҴʫƆ=857hʭƓ<124hƻƯƵ>1KBmɝ<1PMmƜƲ>27Tm",
  "ƐƲ>hƜʔ<27YnROP<HmƻƓ>26UhƲ<213hƐʔ<5AoROP<JnƻƓ>26WhɁƓ<228v ƣ̾ɁƓ>hȣɈƓ>16cUQUET>2JSEh ȕFLOWERS<6ZcW ƍƆ>2RdL ȕHYGIEIA>9HfƀSPOON>SZe֓<14GdTIE=6VCg ƀƜƻǹ>1E0mƐƻǹ>cX DRAWINGS ƗǱƍǣ<VGĝǷ<FĝƩ<3uǣ<4uʨƍǣ>OěǷ<CěƩ<3uɏ<9Ĝ ƍǣ>QġǷ<9ġƩ<3pյƗƍƒǞ>4ĝƜǞ<FĝƐǞ<3sǝƍƒȱ<ZĜƜȱ<Uġʨȱ>KĜƐȱ<PĢʨȱ>GĜʨƒȱ>Xsȡƍƒɵ<IĜƜɵ<Uġʨɵ>NĜƐɵ<SĢʨɵ>JĜʨƒɵ>11sʌƍƒǧ>SĝƜǧ<FĝƐǧ<3nǝƗˏǣ<5ğɏ>1vWN>17x ƍǣ<20ĜǷ<WĜƩ<4tǣ<EtǷ>3Ax ƍȡƩ>5tʶˏǣ<39Ģɏ>1tƩ>32tɣˏǣ<39ğɏ>1tUP>35v ƍǣ<1QĚǷ<Wěɶʕ>2RĚƩ<2Wtɏ<Kě ƍǣ>1ZĠǷ<WĠƩ<8nƜǱǝƍƐʨȱ>XsǝƍƐǱȱ<OĢʨȱ>7ĢƊȱ>7sȡƍƐǱɵ<BĢʨɵ>7ĢƊɵ>FsʨǝƍƐǱȱ<7oɶҴǱƍǷ>16ĠƩ<1xʨƍǷ>1ĞƩ>tǌȺ>2ĜǺ>2KVUĜƑƜɊƿț<Cķ ɊƑƩ>3īǐɠɊƑƩ>Ň Ɋƿț>4ģƐɊƿț<9ĬǐɠɊƑƜɊƿț>9ĜǐɠɊƑǷ<Dķ ƍƑƐɊƿț>7ĸɊƿț<4Ň ɊƑƩ>6ĳƩ<Aĸ ƍƑƜɊƿț>7ĹɊƿț<4ň ɊƑǷ>4ĢƜɊƿƩ=7EAĢƐɊƿǷ<1uȌˏǣ<11ğɏ>1vWN>14x ƍǣ<23ĜǷ<SĜƩ<4tǣ<Cĝ ƀƊƋ>2KZ2tǷ=7ECx ƍǝƩ>7tʶˏǣ<38Ģɏ>1tƩ>2Ztɣˏǣ<36ğɏ>1tUP>32v ƍǝʕ>7ěORIZONTAL<21ĚǷ<SĚƩ<4tɏ<Iě ƍǣ>1LĠǷ<OĠƩ<8nƐǱǝƍƜʨȱ>15tǝƍƜǱȱ<OĢʨȱ>7ĢƊȱ>7tȡƍƜǱɵ<DĢʨɵ>7ĢƊɵ>FtʨǝƍƜǱȱ<5nʨƗƍƒǞ>ZěƜǞ<CěƐǞ<3qǝƍǱƒȱ<PĚƒȱ<8ĚƜǱȱ<Iğȱ<CĚƐǱȱ>3Ġȱ<8qȡƍǱƒɵ>1DĚƒɵ<HĚƜǱɵ<Dğɵ<HĚƐǱɵ>8Ġɵ<Dqʌƍƒǧ>29ěƜǧ<CěƐǧ<3nƊƗƍƒǞ>IġƜǞ<9ġƐǞ<3wǝƍƒȱ<TĠƜȱ<QĠƐȱ<8wȡƍƒɵ>UĠƜɵ<QĠƐɵ<8wʌƍƒǧ>24ġƜǧ<9ġƐǧ<3dɜGLOVE>2KFFcY<YSdS ƌ>GYbPH=3MbRAHMI Ȱ>1HOKi˿Ƭ>12nǉ<3oȐ<1nǊ>4nǛ<8nƪ>5oIX<1nƤ<3oWO<1nǚ<2iȌȰ<UhƃA<1VpA>pI>9pU>1oBA>MpHA>oCA<IpHA>oDA>ApDA<5qHA>pHA>4oE<MoGA>5pHA>oHA>SoI<18pI>oJA>HpHA>oKA<8pHA>oLA>PpLA>5oMA<9oNA<5pGA<FpNA>9pYA<5oO<Bp׮ؖLLA>2RĚLA<1SyNNNA>1yRRA<1yȖE>1MĞO>oPA<23pHA>oRA>4oSA>4pHA<2pSA>oTA<FpHA>pTA<6qHA>oU<LpU>oVA>10pȳL<YxL>wR<3xR>oYA>VhƹƬ>18tY>8oɲ<3qVE<9pΦ>7qUR<9oΟ>15oǊ<11sTY>8oǛ<Hr ƚ>HsƎ>oƪ<DtTY>8pIX<ArTY>8oʚ<5p˾>1qӵ<9pȽ>7qO<9hǯҌȊ<7tɑ<3vȔɑ>tɮ>uOTUS>1hƙƸ<24mǃ<1m˂>2mӧؖ",
  "Ǥ>30mˇ<30m͗<2hǤ>1ViΨƙAA<EtI>AtU>1sBHATTIPROLU AA<CsE>8sI<8tI>sO>8t׮ؖȖE>1AĢO>sU<1KtU>sǪL>2ěL>ĚR<3ěR>dILLE PATTERN BLANK=7WGqDOTS-1>w2>1x3>3y4>7z5>FĚ6>Vě7>1RĜ8>3Jě8<1SĚ7<2Oě8>3JĚ8<1Sz6<34Ě7>1Rě8>3JĚ8<1Sz7<2OĚ8>3Jz8<1Sy5<3Cz6>VĚ7>1Rě8>3JĚ8<1Sz7<2OĚ8>3Jz8<1Sy6<34z7>1RĚ8>3Jz8<1Sy7<2Oz8>3Jy8<1Sx4<3Gy5>Fz6>VĚ7>1Rě8>3JĚ8<1Sz7<2OĚ8>3Jz8<1Sy6<34z7>1RĚ8>3Jz8<1Sy7<2Oz8>3Jy8<1Sx5<3Cy6>Vz7>1RĚ8>3Jz8<1Sy7<2Oz8>3Jy8<1Sx6<34y7>1Rz8>3Jy8<1Sx7<2Oy8>3Jx8<1Sw3<3Ix4>7y5>Fz6>VĚ7>1Rě8>3JĚ8<1Sz7<2OĚ8>3Jz8<1Sy6<34z7>1RĚ8>3Jz8<1Sy7<2Oz8>3Jy8<1Sx5<3Cy6>Vz7>1RĚ8>3Jz8<1Sy7<2Oz8>3Jy8<1Sx6<34y7>1Rz8>3Jy8<1Sx7<2Oy8>3Jx8<1Sw4<3Gx5>Fy6>Vz7>1RĚ8>3Jz8<1Sy7<2Oz8>3Jy8<1Sx6<34y7>1Rz8>3Jy8<1Sx7<2Oy8>3Jx8<1Sw5<3Cx6>Vy7>1Rz8>3Jy8<1Sx7<2Oy8>3Jx8<1Sw6<34x7>1Ry8>3Jx8<1Sw7<2Ox8>3Jw8<1Sv2<3Jw3>3x4>7y5>Fz6>VĚ7>1Rě8>3JĚ8<1Sz7<2OĚ8>3Jz8<1Sy6<34z7>1RĚ8>3Jz8<1Sy7<2Oz8>3Jy8<1Sx5<3Cy6>Vz7>1RĚ8>3Jz8<1Sy7<2Oz8>3Jy8<1Sx6<34y7>1Rz8>3Jy8<1Sx7<2Oy8>3Jx8<1Sw4<3Gx5>Fy6>Vz7>1RĚ8>3Jz8<1Sy7<2Oz8>3Jy8<1Sx6<34y7>1Rz8>3Jy8<1Sx7<2Oy8>3Jx8<1Sw5<3Cx6>Vy7>1Rz8>3Jy8<1Sx7<2Oy8>3Jx8<1Sw6<34x7>1Ry8>3Jx8<1Sw7<2Ox8>3Jw8<1Sv3<3Iw4>7x5>Fy6>Vz7>1RĚ8>3Jz8<1Sy7<2Oz8>3Jy8<1Sx6<34y7>1Rz8>3Jy8<1Sx7<2Oy8>3Jx8<1Sw5<3Cx6>Vy7>1Rz8>3Jy8<1Sx7<2Oy8>3Jx8<1Sw6<34x7>1Ry8>3Jx8<1Sw7<2Ox8>3Jw8<1Sv4<3Gw5>Fx6>Vy7>1Rz8>3Jy8<1Sx7<2Oy8>3Jx8<1Sw6<34x7>1Ry8>3Jx8<1Sw7<2Ox8>3Jw8<1Sv5<3Cw6>Vx7>1Ry8>3Jx8<1Sw7<2Ox8>3Jw8<1Sv6<34w7>1Rx8>3Jw8<1Sv7<2Ow8>3Jv8<1SeN>2JXBcEAD<1AAeK PERMITTED HERE=3MeST-FEEDING>2ROUdVE=K8cICK>2RDKdDE ƀVEIL<135eGE ҧώ<9ZdEFCASE>C2fS>14LcOCCOLI<7GdKEN Ȋ=4MhǟƀNORTH",
  "WEST Ɔ>6W4h˽>2JUWdOM>12Cdյ˽<6JbS=8bUBBLE TEA>2RWIgS>7VcCKET<1WcG<1AGdINESE ͷȕ˱=55RjƃA<AqBA<GqCA>6qDA<3qGA<8qHA>KqJA<9qKA<DqLA>HqMA<CrPA>qNA>2rGA<8sKA>rRA>7rYA>2sCA>qPA<BqRA>CqSA>2qTA<CqVA>AqYA<3jPALLAWA>DjƷƙAE<3uE<2uI<2uO>2uU<2cHID ƃA<K8nBA>9nDA<3nGA<3nHA>CnI<GnKA>1nLA>AnMA<3nNA<3oGA<3nPA>3nRA>3nSA>2nTA<AnU<4nWA>CnYA<3gƷƙI>5rU>cILDING CONSTRUCTION>2M4JcLLET=6CIg Ǆ>DYeՉ>2KB5i ƀʘWAVES>eSEYE=7GUcRRITO>2J4WcS>NWd ǽ>2dT ̎њ<FFeS ̎њ>cTTER>12AgFLY<1PbYTE ORDER ƕ<1DHOcZANTINE ͊ȗAGOGI ARGI>15EKĢOTERI<1ğGORGI>3ģOTERI>ğMESI<2ġTRIA<1ğPOLI ARGI<3ĤGORGI>6ĚNATRICHISMA<3DěTIKENOKYLISMA>1LġMA<6ĚPESO ͮ<27ĠXO Л>11ěLI>29ěODERMA Ȥ<2RĢЛ>2PĜSTROFOI SYNDESMOS Л<1EĤTELOUS ICHIMATOS>2IĢS<4Cģ ҽ>ĤЛ>1QĜTHEMA<1AĚRGON>37ĝSYNTHETON<10ěKTIKO DI>3CġGA<1ġKE>1ġNI>1ġPA<6ġVOU>ġZO>3zCHAMILI<48ğON<1QěOREVMA Ȥ>YĢЛ>17ěROA KLITON>2PğSPATHI>ğZYGOS<2zDASEIA<5JĚIARGON>47ĜSTOLI APLI MEGALI>1TĨIKRI<1Ģҽ>1ĢTHESEOS>ěESIS APLI DYO ˑ<DĠ׍EX ˑ>1Ġ՗TESSERA ˑ<1Ġԟ<2ġRIGRAMMOS OKTO ˑ>3ģTIMORION<5ěFTOGGOS OU>OěGORGON<2Dġ ӭARISTERA ANO>1Ĺӗ<1İDEXIA>1ĜRAMMA GG>28ěPLI<2OĞ Ȥ<6ĚYO<29zEKSTREPTON>1GĚLAFRON<FĚNARXIS KAI FTHORA VOU>2OěDOFONON<1NĚPEGERMA<JĚTERON ARGOSYNTHETON>BĠС<KĚXO ͮ<2AzFANEROSIS DIFONIAS>4Hģ׷<1ģTETRAFONIAS<1ĚHTORA SKLIRON ԯVASIS>MĚTHORA Ȥ<41Ĩ DEYTEROU ICHOU>3OĠDIATONIKI DI>3ĪKE>1ĪNANA<4īI ANO>6ĭӗ<1ĪPA<7ĪZO>5ĠENARMONIOS ANTIFONIA>BĠI YFESIS ԟ<1ĠMALAKON ԯDIFONIAS<8į׷>ĠNAOS ̍<8ġENANO>AĠSKLIRON ԯSYNAFI<1įVASIS<1ĨDIATONON DI<7zGENIKI DIESIS>PĠYFESIS>ĚORGON Ȥ<5FĠNEO ANO>3CĤӗ>2TĠӭARISTERA<2TĮDEXIA>ĞSYNTHETON<VĜTHMIKON N APLOUN>1TĦDIP",
  "LOUN>ĚRONTHISMATA<34zICHADIN<6ĚMIDIARGON>2GĜFONON>UĝTHORA<3MġON>3MĚSAKIA TELOUS ICHIMATOS<CěʾȤ<42ĞЛ>17zKATAVA TROMIKON<FğSMA>1UĜHISTI<37ĚENTIMA Ȥ>JġNEO ANO>1Fĥӗ>4JĥMESO<2ĠTA<69Ģ Ȥ>BģNEO ANO>1Dħӗ>4JħMESO<2ĚLASMA<5Oğ ANO>2IĠӗ>38ĚONTEVMA<56ġ ALLO>7ěRONIS>1YěUFISMA<1RĚRATIMA ALLO>1JĢRCHAION<1ġЛ>1ĠTA<29ğOKOUFISMA>PĠYPORROON>7ěEMASTI<20ĚYLISMA>2CzLEIMMA DYO ԰>15ĠENOS CHRONOU<1ĠIMISEOS CHRONOU>3ĠTESSARON ԰<1ġRION ԰<1ěMOI<2MĚYGISMA>1AzMARTYRIA ALLI DEYTEROS ̍>1ZħPROTOS ̍<2ĢDEYTEROS ̍>ĢLEGETOS ̍>5ĢPLAGIOS ̍>ĪTETARTOS ̍>7ģROTOS ̍<HħVARYS ̍>FĢTETARTOS ̍<AīLEGETOS ̍>ģRIFONIAS<2ĥTOS ̍<1ĢVARYS ̍>AĚIKRON ISON<2IzNANA<NzOLIGON Ȥ<17ĠЛ>1DĚMALON>JĚXEIA ҽ<2Fğͮ<1ğЛ>1WĞI Ȥ<14ĚYRANISMA Ȥ>BģЛ>20zPARAKALESMA Ȥ<1KĥЛ>XĞLITIKI<2EĤ Ȥ>1GĥЛ>VĜICHON<1SĚELASTON>Pġ Л>KěRISPOMENI<23ěTASMA>1QĞTI>7ğOKOUFISMA>1ĚIASMA Ȥ<11ĠЛ>1EĚSIFISTOLYGISMA>IġN<1FĢ Л>WġС>KġSYNAGMA>1ĜLI<35ĝON>MzRAPISMA>10ĚEVMA<NzSAXIMATA<8ĚEISMA>Bğ Л>1RĚIMANSIS ARSEOS>3CĨ DISIMOU>ĩ؛>1ĪRISIMOU<1ĢTHESEOS<6ĩ DISIMOU>Ī؛>1īRISIMOU<1ĚTAVROS<2QĠ APODEXIA<2NěΜ>5KěRAGGISMATA<4KĚYNAGMA Ȥ<QġMETA STAVROU>ġЛ>1LĜEVMA<2AěRMA>2AĞTIKI<2MzTELEIA>6ěSSERA>XěTRAPLI>2EĚHEMA<2JĞ APLOUN>22ĞTISMOS ESO<2ĦXO>ĜS KAI APOTHES>1ěITA<2TĚINAGMA>IĚRIA>8ĜGORGON>2TĜPLI<FěOMIKOLYGISMA<QĠN ALLO<16ģRCHAION<DĢЛ>18ĠС>AġSIFISTON<3ĠSYNAGMA>4zVAREIA ҽ<2YĠͮ<1ĠЛ>2AğI Ȥ<1JěTHY<8zXIRON KLASMA>28zYFEN ANO>IĞӗ<1ĜSIS APLI DYO ˑ>2FĠ׍EX ˑ>1Ġ՗TESSERA ˑ<1ĠTRIGRAMMOS OKTO ˑ>1ģTIMORION<AĚPOKRISIS<5FĢ ҽ>ĜRROI>1ZěЪ<3aCACTUS>6W4cDA UNA=6IUdUCEUS>10DcLENDAR>2JDSdL ME ͹>URcMERA<TEg ƀFLASH>dPING<83cN=OdADIAN",
  " SYLLABICS A>3XTuA>vI<9vY>XBuI<WMvVILIK B>B6uN<APuTHAPASCAN M>3ZĞS>1ZuY>Q2tBEAVER DENE L>1TğR>uIBLE-CREE Y<QDuLACKFOOT A>37ĝE<3ĝI>ĝKA>DĞE<3ĞI>ĞO>ĝNA<3ĞE<3ĞI>ĞO>ĝO<8ĝS<4QĝW>AEĞA<5KĞE<3ĞI>ĞO>tC<7PuA<HvA>wI<7vRRIER Ѥ>D7ĝE<3ĞE>ĝI>ĝO<3ĝU<1ěDEE<EMĝ׹GEE>WQĞTAL S>6ĜI<WXĜLA>D4ĝE<3ĞE>ĝI>ĝO<3ĝU<1ĜZA>10ĝE<3ĞE>ĝI>ĝO<3ĝU<1ěEE<G0ěGA>DNĝA>L6ĜE<LAĝE>ĜHA<15ĝE<3ĞE>ĝI>ĝO<3ĝU<1ĜI>1AĜO<3ĜU<1ĜWA>LCĝU<3ěH<WYĜEE<LĜI>ĜWA>BNĝE<3ĞE>ĝI>ĝO<3ĝU<1ěI<CTĜѵZ>FXěJA<18ĜE<4ĝE>ĜI>ĜJA>7ĝE<3ĞE>ĝI>ĝO<3ĝU<1ĜO<6ĜU<2ĜWA>KDěKHA<L4ĝE<3ĞE>ĝI>ĝO<3ĝU<1ĜK>BĝA<1ĝE<3ĞE>ĝI>ĝO<3ĝU<1ěLA>17ĜE<3ĝE>ĜHA>DĝE<3ĞE>ĝI>ĝO<3ĝU<1ĜI<8ĜO<3ĜU<1ěMA<LĜE<3ĝE>ĜI>ĜO<3ĜU<1ěNA<1ĜE<3ĝE>ĜG<8KĜI>8KĜO<3ĜU<1ěP<KĜA<1ĜE<3ĝE>ĜI>ĜO<3ĜU<1ěRA<PĜE<3ĝE>ĜI>ĜO<3ĜU<1ěSA>3SĜE<3ĝE>ĜH>8ĝA<1ĝE<3ĞE>ĝI>ĝO<3ĝU<1ĜI<2ĜO<3ĜU<1ěTHA<31ĝE<3ĞE>ĝI>ĝO<3ĝU<1ĜLA>2QĝE<3ĞE>ĝHA<4ĞE<3ğE>ĞI>ĞO<3ĞU<1ĝI>9ĝO<3ĝU<1ĜSA>11ĝE<3ĞE>ĝI>ĝO<3ĝU<1ĜTA<38ĝE<3ĞE>ĝI>ĝO<3ĝSA>3SĞE<3ğE>ĞI>ĞO<3ĞU<1ĝU<3PěWA<DĜE<3ĝE>ĜI>ĜO<3ĜU<1ěYA>1UĜE<3ĝE>ĜI>ĜO<3ĜU<1ěZ>1JĜA<1ĜE<3ĝE>ĜI>ĜO<3ĜU<1uE<C7uӏƏ>DFuI<DEvI>uO>vO>uWA>DwA>1vE<CvI>1wI>1vO>1wO>1tE<49uASTERN W>YIuN<XDtF>8HuA<4vA>wI<6uE<1uI>1vI>vNAL ǀ<8Nzʜƻə>1zƗǀ>3ĠȖƊSTROKES>ěյ̃>3zǘ<AzƑɑ>6zФ>1zɕɑ>XHĚɶƻə<XOěNG>zȖƒƋ>3Ěȸə>XHz̾ƻə<XOuO>8KvO>uԃǽ>7PuWAA<7Nt˔ǽ<8TtHK>9QuYPHEN<ALtI>2uI>uN>13tK>2EuA<HvA>wI<7vY>UJuE<ULuI>1vI>uO>vO>uW>JvA<6wA>1wY>U0vE<UDvI>1wI>1vO>1wO>1tL>31uA<GvA>wI<7vY>RSuE<RUuH>5UvA<2wA>vI<5wI>vO>wO>uI<5QvI>uO>vO>uWA>DwA>1vE<CvI>1wI>1vO>1wO>1tM<15uA<HvA>wI<7vY>T1uE<T3vDIAL L>20ĚR>2TuH<45uI<OvI>uO>vO>wSE-CREE SK>2OuWA<2BwA>1vE<CvI>1wI>1vO>1wO>1tN>RuұTHE>3YĜI>1ĝI>1uA<4CvA>w",
  "I<7vSKAPI CWAA<XěKWAA<UěMWAA>1JěNWAA>KěS-W>1NĜCWA>3ĜKW<5ĞA>3ĜPWA<2ĜTWA>ĜWAA<9ěTWAA<4FěWAA<22ĜOO<5ěYWAA>86vTTILIK HA>1FNAĞA>ĝI<5ĞI>ĝO>ĞO>ĜSHRA>6ĠA>ğI<5ĠI>ğO>ĠO>vY=4VWuE<SCuG>5WvA<2wA>xI<6wI>69vI<69wI>vO>wO>uH<5CuI<GvI>uNG>5UwA>66xA>wI<5xI>wO>xO>uO<C0vO>vY>S5uUNAVIK H<N4ĜA<2ĝA>ĜE<6ĜI>ĝI>ĜO>ĝO>yUT H>3uWA<4XwA>1vE<4vI>SCwI>1vO>1wO>1tO<XZuJIBWAY C>Y9ěK<1ěM>1ěN>ĜWI<IĞI>1ĝO>1ĞO>1ěP>6ěS>5ĜH>ěT<6uN<X4uO<13uY>X5tP<VBuA<HvA>wI<9vY>W4uE<W6uI>1vI>uO>vO>vY>VZuWA<VKwA>1vE<CvI>1wI>1vO>1wO>1wY>VNtQ<MPuA<2vA>wI<6vI>6OuI<6OvI>uO>vO>tR<1EuұRE<DěWE>POuA<PHvA>wI<7vY>OVuE<OZuI>3vI>uO>vO>uWA>P5wA<P1vEE>OVvI>wI>vO>wO>tS<R1uA<HvA>wI<7vY>R4wISI HA<L8ěE<3ěI>ěO>ĜO>MHĚJI<K2ěU<5ĜU>KBĚM<TUĚѿ>62ĜE<3ĜI>ĜO>ĝO>NLĜWE<1ĚTH<UGĚYI>4EuE<2CuH>1JvA<GwA>wY>Q2vE<Q9vI>wI>vO>wO>wY>Q3vWA<PRxA>1wE<CwI>1xI>1wO>1xO>1xY>PUuI<R7vI>uO>vO>vUTH-SLAVEY KAH<2YġEH<3ġIH>ġOH>vY>TYuPA>1EYOvE<3vI>vO>uW=45JvA<7wA>1vE<CvI>1wI>1vO>1wO>1tT<48uA<HvA>wI<9vY>VDuE<VFuH>7XvұTH>1VĝA<2ĞA>ĝE<6ĝI>ĞI>ĝO>ĞO>vA<1XwA>vE<9vI>1wI>1vO>1wO>vWA>OUxA<OSwE>OQuI<WLvI>uLHA>8PwE<3wI>wO>xO>O0wWE<1uO<WOvO>uTA>OvE<3vH>7BwA<1xA>OOwE<OSwI>wO>xO>OOwWE<1vI<VXvO>uWA<8wA>1vE<CvI>1wI>1vO>1wO>1uYA>7NvE<3vI>vO>tWA<9NvA>1vY>WPuE<X3vST-CREE CWA>40ĠA>1ğE<CğI>1ĠI>1ğO>1ĠO>1ĝFWAA>5CĝKWA<65ĠA>1ğE<CğI>1ĠI>1ğO>1ĠO>1ĝL>31ĞA>2PğA>PGĞE<PQĞO>5ğO>PIĞWA<SAĠA>1ğE<CğI>1ĠI>1ğO>1ĠO>1ĝM<15ĞWA<5ĠA>1ğE<CğI>1ĠI>1ğO>1ĠO>1ĝNWA>MĠA>1ğE<4ĝP<3KĞWA<5ĠA>1ğE<CğI>1ĠI>1ğO>1ĠO>1ĝR>7HĞA>1NĞE<3ĞI>ĞO>ĞWAA<1PĝSHWA<19ġA>1ĠE<CĠI>1ġI>1ĠO>1ġO>1ĞWA<VĠA>1ğE<CğI>1ĠI>1ğO>1ĠO>1ĝTHWAA>2XĞWA<7BĠA>1ğE<CğI>1ĠI>1ğO>1ĠO>1ĝWA<20",
  "ğA>1ĞE<DĞI>1ğI>1ĞO>1ğO>1ĝY>8AĞWA<6ĠA>1ğE<CğI>1ĠI>1ğO>1ĠO>1xERN W>PWuI<Y7vI>1uO>1vO>1wDS-CREE ƄTH>H5ĞTH<67ĠA<1ĠE<3ĠI>ĠO>ĠWA>66ĢA>ġEE<6ġI>ĢI>ġO>ĢO>tY<8TuұCOO<4VĚKOO<UĚLOO>2VĚMOO<1CĚNOO>SĚOO<5BĚPOO>19ěWAA>IĚSOO>4QĚTOO<4HĚW<1HĚYOO>7IuA>vA>wI<7vY>POuE<PQuI>1vI>uO>vO>vY>PJuWA<P6wA>1vE<CvI>1wI>1vO>1wO>1dCEL=Og χ>3FhTAG>JNXMgLATION X<GWX2fR=7KBdDLE>2JHFeY<EBdNED FOOD>16MdOE<HHcPITULUM=94VdRICORN<1KEcR SLIDING>3IdD FILE Ԫ>2JG2fǼ<70k DIVIDERS>6YdE OF=6ITeT<5Pf תPOINT>8dIAN ƃA>18PQp2>6oB>1oC-18>7q39>KoD<10p2>9oE>Dp2>KoG<Fp2>oI<8pI>BoK<9p2>oL<QpD>2q2>13oM<10pB>Vq2>q3>q4>oN<OpD>8pG>5pN<HoO<8oP>Bp2<MoQ>6oR<3pR>ZoS<PpH<2q2>pS>8pT>9q2>oT<MpT>Pq2<HoU<4pU>CqU<Rr2>Zr3>7rU<LoX<7dON=JReUSEL ֐>2Q54dP STREAMER<HeENTRY SAW>1E2dRIAGE RETURN=DeOT>2RT3cSTLE=7ORcT>2J30d Ǒ>14i ƀTEARS ȕJOY>EFoWRY SMILE>2cUCASIAN ALBANIAN CITATION ƕ<1BKDtƃALT<1RěOR>NĚBET<NĚCAR>GĜYN>TěHA<13ĝT>SĜI<CĜOY<1ěYAW>LĝY<KĚDAT<OěYAN>DěZAY>JĜYAY<6ĚEB<RěYN>1ĚFAM>TĚGHEYS>3ěIM<12ĚHEYT>JĚINYA<7ěRB<3ěWN>XĚJAYN<DěHOX<EĚKAR>ěIW>UĚLAN<11ěYIT>6ĚMAQ>6ĚNOWC>1ĚON>3ĚPEN>4ěIWR>AĚQAR<LĜY<6ĚRAT>HĚSEYK>ěHA<TĝK>IĜOY>CĚTAS<11ěIWR>ZěYAY<9ĚVEYZ>7ĚXEYN<RĚYAYD>WěOWD<13ĚZARL<5ěHA>5ĜIL<4dTION Ə=7J5bCH=44bEDI Ə>6CGeLLA=54cLTIC Ⱥ>2QVJcNT Ə=4IeRE ȟƌ>6E9gȟ˗ɮ>17PLlΧ<4cRES=7N7bGJ=NJbHAINS>70JeR>2KE5dKMA AU ƕ<1A3JhȰ>Ei˿Ƭ<3nǉ<3oȐ<1nǊ>4nǛ<8nƪ>5oIX<1nƤ<3oWO<1nǚ<2iȌȰ>BhƃAA<1RoBAA>PpБ>oCAA<IpБ>oDAA>ApDAA<5qБ>pБ>4oE<JoGAA>2pБ>oБ>RoI<YoJAA>9pБ>oKAA<8pБ>oLAA>QpБ>WoMAA<11oNAA<5pGAA<FpNAA>9pYAA<5oPAA>ApБ>oRAA>5oSAA>2oTAA<FpБ>pTAA<6qБ>oU<DoVAA>1ToWAA<ZoYAA<3pYAA<1hMAAYYAA>JhO ",
  "ƕ<3hǗƕ>HhɆƕ<3iλƸ<1Rmǃ<1m͗>1hǤ>1CiΨƙA<CtA>TtI<OtU>1sE<3tI>PsI<UtI>sO>4tI>1sU<6tU>dM ȏƙƄH<KBIĚM<1ĚNG<9uLA<EuRA<1uWA>1uYA<3fƥƬ>10lǉ<3mȐ<1lǊ>4lǛ<8lƪ>5mIX<1lƤ<3mWO<1lǚ<2fƃA<28nI>3mBA>OnBA>3nHA<3mѤ<IoHA>mDA>7nDA>3nHA<3mE<JmƄCH>1SsG<3sK<1sL>9sN<4tG<4sP>4sR>1sSS>1sT<6sY>2mGA<1SnHA>mHA>UmI<13mJA>CnHA>mKA<9nHA>mLA>SmMA<4nUE<1mNA<7nGA<DoUE<1nHA>6oJA>oUE<2nUE>6mO<ImPA>KnHA>1nPA<1mRA>7mSA>3nSA<1mTA<JnHA>mU<ImVA>YmYA<3fǯȰ>1MsȌȰ>rSPIRAL<2rɣȰ>2fƷƙAA<1IrI>6rU>qEI<5qI<2rI>qO>3rE<1qU<1rE>4dRACTER β=9u SET>3Ivƀԕ>lIE>69IeT ƀǔTREND>2KJSlȅTREND<1y ƍYEN Ə<FcECK ƕ=7PVfחս>2JJEn κ>106dERING MEGAPHONE<1BMeSE WEDGE>YKdQUERED у<16NdROKEE ƃA=3VKqDA>1ErE>1rI>1rLA>4rO<3rU>rV>qE<1MqGA>4rE>1rI>rO>rU>rV>qHA>rE>rI>rNA>FrO<FrU>rV>qI<GqKA>4qLA>BrE>rI>rO>rU>rV>qMA>rE>rI>rO>rU>rV>1JqNA<1JsH>1rE>rI>rO>rU>rV>qO<YqQUA>YsE>sI>sO>sU>sV>qS>1rA<1rE>1rI>rO>rU>rV>qTA>1rE>1rI>1rLA>4sE>sI>sO>sU>sV>rSA>sE>sI>sO>sU>sV>qU<1WqV>qWA>1VrE>rI>rO>rU>rV>qYA>rE>rI>rO>rU>rV>jƖƃA>TX7wDA>1ExE>1xI>1xLA>4xO<3xU>xV>wE<1MwGA>4xE>1xI>xO>xU>xV>wHA>xE>xI>xNA>FxO<FxU>xV>wI<GwKA>4wLA>BxE>xI>xO>xU>xV>wMA>xE>xI>xO>xU>xV<TXSwNA>TXSyH>1xE>xI>xO>xU>xV>wO<YwQUA>YyE>yI>yO>yU>yV>wS>1xA<1xE>1xI>xO>xU>xV>wTA>1xE>1xI>1xLA>4yE>yI>yO>yU>yV>xSA>yE>yI>yO>yU>yV>wU<1WwV>wWA>1VxE>xI>xO>xU>xV>wYA>xE<TZBxI>xO>xU>xV>eRIES>2MOLfY BLOSSOM<QdSTNUT<8cI RHO=7JBdCKEN>2J8SdLD>14TfREN CROSSING<M2dPMUNK<HLdRON=7NBcOCOLATE Ȋ>2J03dPSTICKS>16EdRASMIAN ƃˎ<1A5Utֲ>Fs̱<EsCURLED ͪ>4s̉<3s̩<1sHE>1uTH>3s͇>1sʅ>sи>s̢>sPE>2sϰ>sSAMEKH<3tζ>3tȸˎ<Is҅>Isͪ<Esͫ>3s̜<2lƹ̂>FsǛ<3v ƚ>5sʚ<2tΚ<2tȽ>2uO<4cR",
  "ISTMAS ԁ>18ZHcURCH=7OQbINEMA>2J0BcRCLE ҾBY ƒ̄ƍ̾ƻҾBY ƊȊ=88QhƀALL ԫǐƜ˚ǹ<RPmƒȊ>RJmƜƻǹ<RPnϐƻǹ>1mƐƻǹ<1mƖǟɊ̽Ʃ>S0nUPERIMPOSED X<7mȉƒSTROKES Ɋ̽Ʃ>7mǐƻǹ<S0sƐ˚ǹ>mƊκ<7gD ʫƆ>2IPSv-ROTATED DIVISION Ə=88SjSTERISK Ǆ<1EPiΐX>1SZjULLET<E8iC ƀOVERLAID ̝>2I0EjC<1jD<1Sj֧FORMEE>1JOu ƀɗʃ<2Ěȉʃ>oPOMMEE<QPnɜLANES=7O2i̊<TXj˿Ƭ>CPoǉ<3pȐ<1oǊ>4oǛ<8oƪ>5pIX<1oƤ<3pWO<1oǚ>3SkVISION Ə>11PsLASH<1I8jӨƙƀOVERLAID ̝>2JCMkT Ǆ=6U1iӂ>2iǒ>1ESiՇϡ>1PJw A>Dq͆<Fu A>Dpɿ<9u A>Dpω<Ku A>DvU>8p̡<Kw A>Dq̏<Ov A>Dpʲ<Au A>Dpʴ<Hu A>Dpʟ<3w A>Dq̶<Lu A>Dpʀ<Gu A>Dpɉ<Bt A>Dpȫ<9w A>Dqˁ<Nv A>DjѦƨƔƆ<24Ejˬ̄ƀNOTCH<TLjUMAN FIGURE>2J8LiץACCEPT>69tDVANTAGE<1tLLIANCE=A0FtTTENTION<Gsț>5tԘ<EuPY>AuRRECT>sΔ<KtՊ<8tNTERPRISE>11tXCELLENT<GsFEMALE<2tINANCIAL<5uRE<BuVE<7tȐ<1sHAVE>EtIGH>HsITEM<4sKINDERGARTEN<2JtOTO>1sLABOR>28tEFT>EtOW<1sMALE<CtEDICINE>EuTAL<RtOON<4sNAME>9tՊ>RuNE<14sǛ<8sPRINT>TsQUESTION<2IsRELIGION>2Tuӹ>3vT<DtՊ>6sSCHOOL<2QtECRET>2AuVEN<JtIX<1tOCIETY>DtPECIAL>1tTOCK<4uUDY>PtUITABLE<FuN<CuPERVISE>Rsʚ<ZtΚ<7tWO<1sԉ>AtOOD>jNFORMATION ӹ>2HBUjTALIC ʆƢƃC<13XĤR>iғA=A1CrE>2rHA>LsE>2sI<2sO>2sU<2rI<QrKA>3sE>2sI<2sO>2sU<2rMA>MsE>2sI<2sO>2sU<2rNA<CsE>2sI<2sO>2sU<2rO<IrRA>XsE>2sI<2sO>2sU<2rSA<UsE>2sI<2sO>2sU<2rTA>2sE>2sI<2sO>2sU<2rU<FrWA>14sE>1sI<1sO>1rYA<BsO>1sU<1jOREAN ˦CHAMKO<3CzJUEUI>iʆƢƃA<2PZĝB>ĝC>ĝD>ĝE>ĝF>ĝG>ĝH>ĝI>ĝJ>ĝK>ĝL>ĝM>ĝN>ĝO>ĝP>ĝQ>ĝR>ĝS>ĝT>ĝU>ĝV>ĝW>ĝX>ĝY>ĝZ>oƖƃA>ěB>ěC>ěD>ěE>ěF>ěG>ěH>ěI>ěJ>ěK>ěL>ěM>ěN>ěO>ěP>ěQ>ěR>ěS>ěT>ěU>ěV>ěW>ěX>ěY>ěZ>jESS-THAN>YEiК<1EYjԄƙƀɪǵ>1I7iƹЊ<151uY ʾƯǋ>2QLqΡ<2QTp͂>3tY>2TSu ʾƯǋ<37qΦ>2Wu Ƭ>7vǉ<3wȐ<1vǊ>4vʾƯǋ<37xE>2Yvƪ>5wIX",
  "<1vƤ<3wWO<1rURTEEN<2TMpН>4pϖ<2vY ʾƯǋ>2QLqӖ<2QNtY ʾƯǋ>2QLpʚ<2QSs ʾƯǋ>2QMq΄<2QKuY>2R1v Ƭ>2Gwǉ<2CxȐ<1wǊ>2DwʾƯǋ<2YyE>Gwƪ>2ExIX<1wƤ<2CxWO<1qδ<2R5sNTY>7v Ƭ>2QSwǉ<3xȐ<1wǊ>4wʾƯǋ<GyE>7wƪ>5xIX<1wƤ<3xWO<1iȠɠʯǲȩ<26OiТ>HGjERPENDICULAR>1jLUS<1ESjOSTAL ƕ>2OWiʷˆ<1A6jɜǄ<1EMiǋ>2KOSi֮=6TZjե>2KOTq ʕ=70QiƊȊ>17Viƨ̇>7oȩ<ICjZ>2IGZiX=8N2iֳƀ̭>2HJIeULATION FUNCTION=8B4fMFLEX ǵ=2MfS TENT>2QMJcTYSCAPE>1Aj ҧDUSK<5VbJK COMPATIBILITY IDEOGRAPH-2F800>1FJTĠ1>Ġ2>Ġ3>Ġ4>Ġ5>Ġ6>Ġ7>Ġ8>Ġ9>ĠA>ĠB>ĠC>ĠD>ĠE>ĠF>ğ10>Ġ1>Ġ2>Ġ3>Ġ4>Ġ5>Ġ6>Ġ7>Ġ8>Ġ9>ĠA>ĠB>ĠC>ĠD>ĠE>ĠF>ğ20>Ġ1>Ġ2>Ġ3>Ġ4>Ġ5>Ġ6>Ġ7>Ġ8>Ġ9>ĠA>ĠB>ĠC>ĠD>ĠE>ĠF>ğ30>Ġ1>Ġ2>Ġ3>Ġ4>Ġ5>Ġ6>Ġ7>Ġ8>Ġ9>ĠA>ĠB>ĠC>ĠD>ĠE>ĠF>ğ40>Ġ1>Ġ2>Ġ3>Ġ4>Ġ5>Ġ6>Ġ7>Ġ8>Ġ9>ĠA>ĠB>ĠC>ĠD>ĠE>ĠF>ğ50>Ġ1>Ġ2>Ġ3>Ġ4>Ġ5>Ġ6>Ġ7>Ġ8>Ġ9>ĠA>ĠB>ĠC>ĠD>ĠE>ĠF>ğ60>Ġ1>Ġ2>Ġ3>Ġ4>Ġ5>Ġ6>Ġ7>Ġ8>Ġ9>ĠA>ĠB>ĠC>ĠD>ĠE>ĠF>ğ70>Ġ1>Ġ2>Ġ3>Ġ4>Ġ5>Ġ6>Ġ7>Ġ8>Ġ9>ĠA>ĠB>ĠC>ĠD>ĠE>ĠF>ğ80>Ġ1>Ġ2>Ġ3>Ġ4>Ġ5>Ġ6>Ġ7>Ġ8>Ġ9>ĠA>ĠB>ĠC>ĠD>ĠE>ĠF>ğ90>Ġ1>Ġ2>Ġ3>Ġ4>Ġ5>Ġ6>Ġ7>Ġ8>Ġ9>ĠA>ĠB>ĠC>ĠD>ĠE>ĠF>ğA0>Ġ1>Ġ2>Ġ3>Ġ4>Ġ5>Ġ6>Ġ7>Ġ8>Ġ9>ĠA>ĠB>ĠC>ĠD>ĠE>ĠF>ğB0>Ġ1>Ġ2>Ġ3>Ġ4>Ġ5>Ġ6>Ġ7>Ġ8>Ġ9>ĠA>ĠB>ĠC>ĠD>ĠE>ĠF>ğC0>Ġ1>Ġ2>Ġ3>Ġ4>Ġ5>Ġ6>Ġ7>Ġ8>Ġ9>ĠA>ĠB>ĠC>ĠD>ĠE>ĠF>ğD0>Ġ1>Ġ2>Ġ3>Ġ4>Ġ5>Ġ6>Ġ7>Ġ8>Ġ9>ĠA>ĠB>ĠC>ĠD>ĠE>ĠF>ğE0>Ġ1>Ġ2>Ġ3>Ġ4>Ġ5>Ġ6>Ġ7>Ġ8>Ġ9>ĠA>ĠB>ĠC>ĠD>ĠE>ĠF>ğF0>Ġ1>Ġ2>Ġ3>Ġ4>Ġ5>Ġ6>Ġ7>Ġ8>Ġ9>ĠA>ĠB>ĠC>ĠD>ĠE>ĠF>Ğ900>Ġ1>Ġ2>Ġ3>Ġ4>Ġ5>Ġ6>Ġ7>Ġ8>Ġ9>ĠA>ĠB>ĠC>ĠD>ĠE>ĠF>ğ10>Ġ1>Ġ2>Ġ3>Ġ4>Ġ5>Ġ6>Ġ7>Ġ8>Ġ9>ĠA>ĠB>ĠC>ĠD>ĠE>ĠF>ğ20>Ġ1>Ġ2>Ġ3>Ġ4>Ġ5>Ġ6>Ġ7>Ġ8>Ġ9>ĠA>ĠB>ĠC>ĠD>ĠE>ĠF>ğ30>Ġ1>Ġ2>Ġ3>Ġ4>Ġ5>Ġ6>Ġ7>Ġ8>Ġ9>ĠA>ĠB>ĠC>ĠD>ĠE>ĠF>ğ40>Ġ1>Ġ2>Ġ3>Ġ4>Ġ5>Ġ6>Ġ7>Ġ8>Ġ9>ĠA>ĠB>ĠC>ĠD>ĠE>ĠF>ğ50>Ġ1>Ġ2>Ġ3>Ġ4>Ġ5>Ġ6>Ġ7>Ġ8>Ġ9>ĠA>ĠB>ĠC>ĠD>ĠE>ĠF",
  ">ğ60>Ġ1>Ġ2>Ġ3>Ġ4>Ġ5>Ġ6>Ġ7>Ġ8>Ġ9>ĠA>ĠB>ĠC>ĠD>ĠE>ĠF>ğ70>Ġ1>Ġ2>Ġ3>Ġ4>Ġ5>Ġ6>Ġ7>Ġ8>Ġ9>ĠA>ĠB>ĠC>ĠD>ĠE>ĠF>ğ80>Ġ1>Ġ2>Ġ3>Ġ4>Ġ5>Ġ6>Ġ7>Ġ8>Ġ9>ĠA>ĠB>ĠC>ĠD>ĠE>ĠF>ğ90>Ġ1>Ġ2>Ġ3>Ġ4>Ġ5>Ġ6>Ġ7>Ġ8>Ġ9>ĠA>ĠB>ĠC>ĠD>ĠE>ĠF>ğA0>Ġ1>Ġ2>Ġ3>Ġ4>Ġ5>Ġ6>Ġ7>Ġ8>Ġ9>ĠA>ĠB>ĠC>ĠD>ĠE>ĠF>ğB0>Ġ1>Ġ2>Ġ3>Ġ4>Ġ5>Ġ6>Ġ7>Ġ8>Ġ9>ĠA>ĠB>ĠC>ĠD>ĠE>ĠF>ğC0>Ġ1>Ġ2>Ġ3>Ġ4>Ġ5>Ġ6>Ġ7>Ġ8>Ġ9>ĠA>ĠB>ĠC>ĠD>ĠE>ĠF>ğD0>Ġ1>Ġ2>Ġ3>Ġ4>Ġ5>Ġ6>Ġ7>Ġ8>Ġ9>ĠA>ĠB>ĠC>ĠD>ĠE>ĠF>ğE0>Ġ1>Ġ2>Ġ3>Ġ4>Ġ5>Ġ6>Ġ7>Ġ8>Ġ9>ĠA>ĠB>ĠC>ĠD>ĠE>ĠF>ğF0>Ġ1>Ġ2>Ġ3>Ġ4>Ġ5>Ġ6>Ġ7>Ġ8>Ġ9>ĠA>ĠB>ĠC>ĠD>ĠE>ĠF>ĞA00>Ġ1>Ġ2>Ġ3>Ġ4>Ġ5>Ġ6>Ġ7>Ġ8>Ġ9>ĠA>ĠB>ĠC>ĠD>ĠE>ĠF>ğ10>Ġ1>Ġ2>Ġ3>Ġ4>Ġ5>Ġ6>Ġ7>Ġ8>Ġ9>ĠA>ĠB>ĠC>ĠD>ĜF900<2TCTğ1>ğ2>ğ3>ğ4>ğ5>ğ6>ğ7>ğ8>ğ9>ğA>ğB>ğC>ğD>ğE>ğF>Ğ10>ğ1>ğ2>ğ3>ğ4>ğ5>ğ6>ğ7>ğ8>ğ9>ğA>ğB>ğC>ğD>ğE>ğF>Ğ20>ğ1>ğ2>ğ3>ğ4>ğ5>ğ6>ğ7>ğ8>ğ9>ğA>ğB>ğC>ğD>ğE>ğF>Ğ30>ğ1>ğ2>ğ3>ğ4>ğ5>ğ6>ğ7>ğ8>ğ9>ğA>ğB>ğC>ğD>ğE>ğF>Ğ40>ğ1>ğ2>ğ3>ğ4>ğ5>ğ6>ğ7>ğ8>ğ9>ğA>ğB>ğC>ğD>ğE>ğF>Ğ50>ğ1>ğ2>ğ3>ğ4>ğ5>ğ6>ğ7>ğ8>ğ9>ğA>ğB>ğC>ğD>ğE>ğF>Ğ60>ğ1>ğ2>ğ3>ğ4>ğ5>ğ6>ğ7>ğ8>ğ9>ğA>ğB>ğC>ğD>ğE>ğF>Ğ70>ğ1>ğ2>ğ3>ğ4>ğ5>ğ6>ğ7>ğ8>ğ9>ğA>ğB>ğC>ğD>ğE>ğF>Ğ80>ğ1>ğ2>ğ3>ğ4>ğ5>ğ6>ğ7>ğ8>ğ9>ğA>ğB>ğC>ğD>ğE>ğF>Ğ90>ğ1>ğ2>ğ3>ğ4>ğ5>ğ6>ğ7>ğ8>ğ9>ğA>ğB>ğC>ğD>ğE>ğF>ĞA0>ğ1>ğ2>ğ3>ğ4>ğ5>ğ6>ğ7>ğ8>ğ9>ğA>ğB>ğC>ğD>ğE>ğF>ĞB0>ğ1>ğ2>ğ3>ğ4>ğ5>ğ6>ğ7>ğ8>ğ9>ğA>ğB>ğC>ğD>ğE>ğF>ĞC0>ğ1>ğ2>ğ3>ğ4>ğ5>ğ6>ğ7>ğ8>ğ9>ğA>ğB>ğC>ğD>ğE>ğF>ĞD0>ğ1>ğ2>ğ3>ğ4>ğ5>ğ6>ğ7>ğ8>ğ9>ğA>ğB>ğC>ğD>ğE>ğF>ĞE0>ğ1>ğ2>ğ3>ğ4>ğ5>ğ6>ğ7>ğ8>ğ9>ğA>ğB>ğC>ğD>ğE>ğF>ĞF0>ğ1>ğ2>ğ3>ğ4>ğ5>ğ6>ğ7>ğ8>ğ9>ğA>ğB>ğC>ğD>ğE>ğF>ĝA00>ğ1>ğ2>ğ3>ğ4>ğ5>ğ6>ğ7>ğ8>ğ9>ğA>ğB>ğC>ğD>ğE>ğF>Ğ10>ğ1>ğ2>ğ3>ğ4>ğ5>ğ6>ğ7>ğ8>ğ9>ğA>ğB>ğC>ğD>ğE>ğF>Ğ20>ğ1>ğ2>ğ3>ğ4>ğ5>ğ6>ğ7>ğ8",
  ">ğ9>ğA>ğB>ğC>ğD>ğE>ğF>Ğ30>ğ1>ğ2>ğ3>ğ4>ğ5>ğ6>ğ7>ğ8>ğ9>ğA>ğB>ğC>ğD>ğE>ğF>Ğ40>ğ1>ğ2>ğ3>ğ4>ğ5>ğ6>ğ7>ğ8>ğ9>ğA>ğB>ğC>ğD>ğE>ğF>Ğ50>ğ1>ğ2>ğ3>ğ4>ğ5>ğ6>ğ7>ğ8>ğ9>ğA>ğB>ğC>ğD>ğE>ğF>Ğ60>ğ1>ğ2>ğ3>ğ4>ğ5>ğ6>ğ7>ğ8>ğ9>ğA>ğB>ğC>ğD>Ğ70>2ğ1>ğ2>ğ3>ğ4>ğ5>ğ6>ğ7>ğ8>ğ9>ğA>ğB>ğC>ğD>ğE>ğF>Ğ80>ğ1>ğ2>ğ3>ğ4>ğ5>ğ6>ğ7>ğ8>ğ9>ğA>ğB>ğC>ğD>ğE>ğF>Ğ90>ğ1>ğ2>ğ3>ğ4>ğ5>ğ6>ğ7>ğ8>ğ9>ğA>ğB>ğC>ğD>ğE>ğF>ĞA0>ğ1>ğ2>ğ3>ğ4>ğ5>ğ6>ğ7>ğ8>ğ9>ğA>ğB>ğC>ğD>ğE>ğF>ĞB0>ğ1>ğ2>ğ3>ğ4>ğ5>ğ6>ğ7>ğ8>ğ9>ğA>ğB>ğC>ğD>ğE>ğF>ĞC0>ğ1>ğ2>ğ3>ğ4>ğ5>ğ6>ğ7>ğ8>ğ9>ğA>ğB>ğC>ğD>ğE>ğF>ĞD0>ğ1>ğ2>ğ3>ğ4>ğ5>ğ6>ğ7>ğ8>ğ9>eӲBAMBOO=97YnLUE>15nOLT ȕCLOTH<1AoNE>1KoX<2LnRUSH Ǜ>1FsΈ>mC-SIMPLIFIED BIRD>16zCART<Rzр>10zEAT<GĚVEN>BzFISH<7ĚLY<9ĚROG>DzGATE<MĚOLD<4z֐>Hz̐<8ĚONG<7zSALT>JĚEE<YĚHELL>3ĚILK<PĚPEECH>NzTANNED LEATHER>GĚOOTH>KĚURTLE>4zԌ<OnHOKE<1SnITY>1FoVILIAN<1BnLIFF<VoOTHES>1SnOW<RmDEATH<9nIVINATION<KnOG>TmEAT Ǜ>1GqƤ>1rWO<1nWE<12nYE<DmFIRE<8nOOT>12mGHOST>PnRASS Ǜ<12sƤ>1tWO<1m͹<13nEAD>20pRT Ǜ<23sΈ>nORN>1BmJ-SIMPLIFIED р>13zEVEN<4zTOOTH>1ĚURTLE>4nADE<21mKNIFE Ǜ<XsΈ>mLAME ̂>7rǛ<3rƤ>1sWO<1nͼǛ>1TrΈ>mMEAT<MoSH<7nOON<OoRTAR>VoTHER<UoUND Ǜ>1HsΈ>mNET ̂<YqǛ<3qƤ>1rWO<1mOLD>6mPAW Ǜ<LqΈ>nERSON<Wmբ>29oM<WoP<UnEPEAT<PmSEAL>AoCOND Ǜ<9tƤ>1uWO<1nHEEP>1EnILK<7oMPLIFIED ƻTREE TRUNK<9yORN>VxWALK>5yHEAT>RxYELLOW>nȸǛ<2LsΈ>nNAKE>4oӪǛ>1sΈ>nPIRIT Ǜ>MtΈ>nUN<HmTABLE<LnHREAD>BnIGER>19nURTLE>1BmWALK Ǜ<10rΈ>oTER Ǜ<19sΈ>nEST Ǜ>WrΈ>eȪBXG>LAlD>GlH<4mG>5mP<FnWG>4mXWG>JmZ<BnG<FnT>3nW>2oG<5nZ<3oP>5oZ>2pG>IlN<IlP>2mD>8mG>6mZ<6lQ>6lS<ImG>8mP<7mT>5mW<LnG>QnZ<7mZ<1nWG<EnZ>KlT<UmN>SlWG<SlXG>bLAMSHELL MOBILE P",
  "HONE>2H8EdPPER ս<D1fɜנƏ>4IdSSICAL Є<38cEAR SCREEN ƌ=716cINKING BEER MUGS>2JMOjGLASSES>152dPBOARD<VRcOCK ͯʯˌ>3Vqʉ>Bmװˌ<9rʉ>Blɖˌ<Ipʉ>Bm͎ˌ<Dpʉ>BlМˌ<7pʉ>BlǮˌ<Koʉ>Bl̗ˌ<6qʉ>BmԔˌ<Doʉ>BlЭˌ<8oʉ>Bmѭˌ<Jqʉ>BmѢˌ<3rʉ>BnO ˌ<Moʉ>BfWISE ʊǟƆ=85DlONTOUR ɝ<1E7kǔƍȅȠǟʂ>2K7KkGAPPED ǟƆ=7W3kɝ<14YkȠǟƆ<3AkƐƍƜ̖ʂ>2KGSpȢƍƾȠǟʂ<5Zĵ ƀȴǮȍ>k̖̾Ɔ=6NRlͽȠǟƆ>1X2dSE UP<272fD ԩ>2KJOhԓƀSERIFS=8CThLOCK ƀKEY>2IMAhMAILBOX ƀLOWERED у<12uɕу>hͧ=8GFn ʵƫTO>1jђ<1p ʵƫTO>1hUMBRELLA>2I3ZiNION ƀSERIFS=8CSy ƍSMASH ʋ>3dUD<UNf ƀLIGHTNING>2J3Blբ<2lSNOW>lTORNADO>1dյǑ>16EbOAT>5FcCKROACH>5PeTAIL Ӌ<1FFdONUT>164cFFIN=7N4cIN>2KFCcLLISION ƌ<16CdON=1Mf ӂ>6QHgƏ<C3cЗ̰ǵ=LDw Ƈ>LqȄƕ>15p-GRAVE-ACUTE>58Nqǅ<2lLMOST ƫɊƅ=NGĚƇ>59SlNNUITY ƌ>KPmTICLOCKWISE Ǧƅ<Jyȑȍ>5lSTERISK ƅ>LtƇ=NTkֽƇ>1HPDlREVE=LIp Ƈ>13p-MACRON>598mIDGE ƅ=NArƇ<Skǃ<QmRON<4p Ƈ>Vlȭ<5lɀǵ<11ě Ƈ>16lLOCKWISE Ǧƅ>5UVuȑȍ>3lѷƅ=LVv Ʃ>1qƇ>GmNJOINING ǅ>1DKVě Ƈ>6lYRILLIC DASIA PNEUMATA=W5tǕϋƏ>VZFěѝƏ=W8tӘ>VZNtƃA<NT2ĚBE<MěIG ͬ>TĚCHE<DĚDE<EěJERV>KĚEF>NTXěL<NUFěM>ěN>ěR>2ěS>Ĝ-TE>7Ěӆ<1ĚGHE<IĚHA>CĜRD Ə>NT4ĚI<3ěE<NSUěOTIFIED A>4ģмͬ>2ģE>NTRĚKA<NUHĚȲͬ>MĚMONOGRAPH UK<4ĚO<Fě̺>NTCĚPE<NTCĚѿ>6ĜѤ>ěOFT Ə>NT2ĚTE<NT8ěSE>1ĚU>NT2ěKRAINIAN IE<3ĚVE<NTFĚYAT>OěERU>NSUěI<3ěU<NSRĚZE<MěHE<1tϋƏ=W9tPALATALIZATION<5vYEROK>VZSuOKRYTIE=W7uSILI PNEUMATA<1tЭϋƏ>VZDuHOUSAND ϋƏ>1uITLO=W3y Ɯʽ>1DBEzƐʽ>tVZMET<HC0kDELETION ƕ<QYCmVANAGARI ƥƬ>RFWěǉ<3ĜȐ<1ěǊ>4ěǛ<8ěƪ>5ĜIX<1ěƤ<3ĜWO<1ěǚ<2vƃA>9ĜKA>1ĜNA>ĜPA>ĜRA>ĜU<4ĜVI>4vƙҷ>lʏ=LKt Ƈ>Rt-RING>4NGḷƅ=LJt Ƿ>5BKuƩ=NSoƇ<1Ht Ƿ>5AUnӻ̰ǵ<1Lr̵ǵ<1mṴ̏ǵ=LNrȇ>29w Ƈ<1rɪƅ>580r̵ǵ=LRrƱȇ>29ğ Ƈ>596r˗ɮ=MRrǅ>16x Ƈ>rȠǴƇ>4M0sV",
  "ERLINE=N3rPARENTHESES ƅ>4N0sӜƙƅ>CěƇ>rƔǦƇ=O2tNG Ƈ<8rǏ>5w Ɯʽ>1DJ5xƐʽ>rƊȟƅ=LQğƇ>1LĚȪȍ>5ULqD ɪǵ<186mյ҄Ƈ=M6oȢƆ>4NOkENCLOSING Ƶ>17TĚ ̝>2uǺ<1uKEYCAP>3uSCREEN<1vϓ<4uUPWARD ƦƧ>5lєƙƇ=NBkFERMATA>Al͎Ǉƅ>5U1kGLAGOLITIC ƃAZU>2GBNĜмͬ>13ĝUKY<13Ĝׄ>RĜא<HĝOBRO<8Ĝӆ>11ĝRITU<JĜՃ<KĜHERU>KĜI<DĝѵIZHE<1ĝϭмͬ>UĤƖͬ<2ĝZHE<UĜKAKO>3ĜLJUDIJE>Ĝϩ>ĜNASHI>ĜONU>ĜPOKOJI>ĜRITSI>Ĝѿ>AĞTA<3ĝLOVO<7ĝȸͬ>FĜTSI<8ĝVRIDO<7ĜUKU>ĜVEDE<KĜYATI>UĝERI<1ğU<1ĞSTU<QĝO>WĝU<3Ĝت<Rĝף<2lRANTHA ƥǉ<14EZzȐ<1yǛ<3ySIX>4yƤ<3zWO<1yǚ<2sƃA>9zKA>zNA>zPA>1zVI<1nPHEME Ο=NJnԆǵ<27w Ƈ>LqȄƕ>15p-ACUTE-GRAVE>58Nqǅ<3mEEK DIALYTIKA ʛ=N8qKORONIS<1q͊PENTASEME>2JGGyTETRASEME<1zRISEME<1qƳ=N6qƝ>2kHOMOTHETIC ƅ>5mOK ƅ<1UmRN>HkӒ>4NQmVERTED ȇ=LTy Ƈ>TvIDGE Ƈ>AtƗARCH ƅ>4NGğƇ=MJlS Ƈ>59GkKATAKANA-HIRAGANA ϳʘƕ>3PLĜ˹ʘƕ<1mVYKA ǈǷ<3OIxƩ<1kʆƃƖƢG<RĥL>2ĥM>ĥN>1ĥR>qƖƃA=O3Ğ ƀƠ>58UĞE<UĞ̹>IĞO<IĞV>ĝB>HĞε>ĝC=O8Ğ CEDILLA>57YĝD=O9ĝE<5ĞSH>58QĞTH<MĝF>HĞLATTENED ȠA ƅ<OĝG>6ĝH=OAĝI<5ĞѶD>582ĥG<LOĥR>ĥT>ĝK>LPĝL>Ğ ƀƗƑǏ>EĞͼS<7ĝM=OBĝN>584ĝO=O6Ğ ƀƠ>58SĤȡ˺Ƌ<6ĝP>ĝR=OCĞ Ƈ>57Hğϱ>OĝS>Ğׅ>5ĝT=ODĞ˸W Ƈ>4LUĝU=O7Ğ ƀƠ>58SĤȡ˺Ƌ<4ĝV=OEĝW>58IĞ Ƈ<MQĝX=OFĝZ>586lҎȚƅ=M2vƇ>1Aq֨ƅ>5U4vƇ>Nǔƅ<KWzƇ=NOpƻȑƅ<3zƇ<1Hrӷƅ>5V7pɻǈǷ<173ě̅Ƿ>1pƐǦƅ>17HěƇ=NHp҄Ƈ<1HoȢǦȍ>5W1uɄƀǎɒ>2lɅƜʽ>17OYĜ Ƈ>6tƐʽ<6ĝ Ƈ>6nHT ˺ȪƇ=5A1lͼƗ͕ȍ>181p͕ȍ=MWqTROKE ȍ<2pƊȟȍ>5UJmW ɮ=MQkǅ<1Aq Ƈ>18rƜʽ>1DKIĚ Ƈ>6rƐʽ<6ě Ƈ>6q-ACUTE=5VOrȇ>7rǘ<6lINUS ƙƇ=M8kʇʺƅ>15lUMBER ƙƅ>4MZk˫=MGq ƅ>59Hl׮PERMIC ƃAN>19D3ĜDOI>ĜNENOE>1ĜSII>ĜZATA<2lρǴƇ=59ZlVERLINE=LHkPALATALIZED ȞƇ>RmRENTHESES ƅ>4NTwƇ>1wȍ>lӜƙƅ>9uƇ=M7kƮȞƇ>2mγ͕ȍ>5VMrD ˋƅ=LWlɶǦƅ>5VMwƇ>Nv̌ƅ=NKěѴǱˤƇ>59QĞʨˤƇ=NQĚƇ<1qƻȑƅ>1ĚƇ<Usӷƅ>5UFqɻǈƩ<1",
  "73Ĝ̅Ʃ>1q҄Ƈ=M1pȢɄƀǎɒ>5W2mNG ƅ=LMpƇ>Qpȍ>5V6kSEAGULL Ƈ=N0lHORT ͕ȍ<5rTROKE ȍ<2qƊȟȍ>5ULlNAKE Ƈ<LTlΫƇ=MZsRACKETS ƅ>4NDlTRONG ˺ȪƇ<BlUSPENSION ƕ>LKkƶǇƅ>LZlILDE=LFp Ƈ>18qƜƻƇ>1DKOqȍ=MSqƐƻƇ>1DKLlї̰ǵ=5AJrɑ<NrUNDERDOT>183l˸ˋƅ=LUkʨ҄ƅ>5B6sƇ=M5mȢǦƇ>1ClR ƅ>58IlS ƅ>kƊȟƅ=LPyƇ>RtǏ>KkWIDE BRIDGE ƅ>5UYpƱBRIDGE Ƈ<KWmGGLY ȟƇ<N7kX ƅ=N1mƇ>Ll-X Ƈ>4M9k͘ƅ=NVrƇ>583dET>1MCdMA=18eѨAT>JlяƏ>6C1dPASS>2LJUeLEMENT=6PTeOSITION ƌ>AQeRESSION>2K47cNFETTI η<GIe՜Ǒ>I3eUSED Ǒ<1dGRUENT ƀƽƅ=8DPdICAL TAPER<1FFdJUNCTION>K9dSTRUCTION Ə>2JRUnWORKER<FKdTAINS AS ׵=6Q3mϫSUBGROUP>4Ně ʵƫTO>1jƀȂƒƋ>1Woɺ>2oƊ̄ҧͷȕƒƋ<2eINUOUS آƌ>3Pe͎ɝ<9FeROL KNOBS>2JXOiSEQUENCE ш=4BdVENIENCE STORE>2QMMcOKED RICE<40eIE>FfNG>8cPTIC ƢƃحKHEI=8UGxLFA<20wBOHAIRIC KHEI>35wCROSSED ժ<1CyնEIE<CĤӉ>1IĤNI<1DĤժ>1AwDALDA<2TxEI=RYxIALECT-P Ͽ>81VĠHORI>NĠKAPA<IĠNI>1wEIE<1EwFEI=ROxI>81XwΗ<12yNGIA=RUwHATE>80ZxORI=RSwIAUDA>815wKAPA>1xHEI=RQyI>81XxSI<GwL-SHAPED HA>1FxAULA<1MwMI>1wNI>1wO>3x׮COPTIC ѣ>LġDJA>ZġESH<IġӉ>FġHA<8ģT>5ĢEI<2ĢORI<6ġOOU<Eġժ>5ģIMA>LĚ՚NGI>3ĢYI>1ġSHIMA<4ġWAU>5xOU<1EwPI<GxSI>DwRO<CwѼ>TxHEI=RMyIMA>9xIMA>81JxOU<QwTAU>RxHETHE<MwUA>NwVIDA<12wZATA>9iϏNI ƅ>2QrSPIRITUS ASPER>ĚLENIS>hEPACT ƥƬ>169Itǉ<3uȐ<1tǊ>4tǛ<8tƪ>5uIX<1tƤ<3uWO<1nƹʯƚ>NzY<9uɲ<3wԆƚ>8vΦ<AwUR ƚ>8uМƚ>4yTY<9uǮƚ>u̗ƚ>5zTY<9vԔƚ>7xTY<9uʚ<5v˾>1wѕƚ>8vȽ<AwO ƚ>8nѝƕ<KhȶǮʽ=8VXiԃǽ>hMORPHOLOGICAL ΃>hӧ՚DIRECT Ǘƕ<5sǻǽ<1sINDIRECT Ǘƕ>1sγ΃>hƖƃحKHEI<1FvLFA<20uBOHAIRIC KHEI>35uCROSSED ժ<1CwնEIE<CĢӉ>1IĢNI<1DĢժ>1AuDALDA<2TvEI=RZvIALECT-P Ͽ>81VĞHORI>NĞKAPA<IĞNI>1uEIE<1EuFEI=RPvI>81XuΗ<12wNGIA=RVuHATE>80ZvORI=RTuIAUDA>815uKAPA>",
  "1vHEI=RRwI>81XvSI<GuL-SHAPED HA>1FvAULA<1MuMI>1uNI>1uO>3v׮COPTIC ѣ>LğDJA>ZğESH<IğӉ>FğHA<8ġT>5ĠEI<2ĠORI<6ğOOU<Eğժ>5ġIMA>Ly՚NGI>3ĠYI>1ğSHIMA<4ğWAU>5vOU<1EuPI<GvSI>DuRO<CuѼ>TvHEI=RNwIMA>9vIMA>81JvOU<QuTAU>RvHETHE<MuUA>NuVIDA<12uZATA>9i̿KAI>2EpӏRO>4oMI RO<4oPI RO>oSHIMA SIMA>3pTAUROS<3oTAU RO>dYLEFT ƌ>2HC6eƐƏ=4PcRAL>2RYMdNISH γ΃=95BdRESPONDS TO<2D3cUCH ƍLAMP>2KJ6dNTERBORE=6YChSINK>fɜROD TENS ƥƬ>2DDMyǉ<3zȐ<1yǊ>4yǛ<8yƪ>5zIX<1yƤ<3zWO<1nUNIT ƥƬ<3yǉ<3zȐ<1yǊ>4yǛ<8yƪ>5zIX<1yƤ<3zWO<1dѓƀ˽>6JZcW<3Xd Ǒ>15bR=DcAB>2RUAcEDIT CARD<Y5dSCENT MOON<BEcICKET>1A5h BAT ƍη<154cOCODILE>1MdISSANT>11HdSS ƕ=7RGgȕJERUSALEM<83jLORRAINE<1gPATTY ƀƜCROSSBAR>1M0rƐCROSSBAR<1hOMMEE>2HV5m ƀՆƇ<1fӀFLAGS<C5iҙЫʆƢƃP<EAiSWORDS=7MCfɜLANES>1JdWN>2J5WcUTCH>17UdZEIRO Ə=6G2cYING ԮǑ>2KRGhǑ<TdSTAL η<6SbSI=4BbUBE ROOT>6M7cCUMBER>2L2UcNEIFORM NUMERIC ƙʯͶ<164Sĝ̳>6ĝΘ>Eĝϗ>DĝU<NĞ ǾƁ>2HĝǾʰUSSU<15Į3>yLAMITE ɲ>YĠΦ<1ğǮTHIRD<2ğȉ϶>xɖͶ<2Rğ ɇ>21Ĝֺ>6Ġ ǾƁ>ĝURU<SĜ̳<1BĜΘ>EĠU>8Ĝϗ>4ĠU>9ĝIXTHS ̳>16ĜU<24ĝ ǾƁ>2Hy͎Ͷ<2Wğ ɇ>21Ĝֺ>5Ġ ǾƁ>ĝURU<RĜ̳<1BĜΘ>EĠU>8Ĝϗ>4ĠU>9ĜU<Xĝ ǾƁ>2HĜǾʰLIMMU<19Į A>1įB>Į4<2xNIGIDAESH>PĝMIN<1z׹Ͷ<27Ĝ̳>6ĜΘ>EĜϗ>DĜU<Nĝ ǾƁ>2HĜǾʰILIMMU<14į A>2į3<2į4>xӧدǮ˭>PĨSIXTH<1y׹ֺ<IĜURU<RěȥͶ>16ĜSHE3<7ěΘ<1VğU>8ěƻGUR>1XěȹͶ<4ģGUR>2ěSHARU<1Jěќ̳>19ġǾʰA>2x̗Ͷ<2Gĝ̳>6ĝΘ>Eĝϗ>DĝU<NĞ ǾƁ>2HĝǾʰIMIN A<16įB>Į3<2yHAR2 ƘGAL Ɵ̳<FĬMIN>yԔͶ<1BĞ ɇ>21ě̳<1VěΘ>Eěϗ>DěU<NĜ ǾƁ>2HěǾʰASH9<17xƶͶ<1RĠ ɇ>21ĝֺ>5ĞURU<Rġ ǾƁ>ĝ̳<1BĝΘ>EġU>8ĝϗ>3Ģ ǾƁ>ġU>8Ģ ǾƁ>ĝǾʰESH16>Aĭ21>yˢͶ<1NĞ ɇ>21ěֺ>5ĜURU<RěESHE3>ZěΘ<1VğU>8ěϗ>3ğU>9ěTHIRDS ̳>19ĢǾʰA>2kǯƙǌʍ>JĤQUADCOLON>1ĤTRICOLON<1ěӧدд΃<3ěƊʍ>kƙA<VLq ƘA>xл>xͱ",
  "ɇ>xHA>xՋ>xыȝ>xMUSH>xSAG>q2>qB>r ȝ>AsƘASH2<AyDUN3 ȝ>yGAL>ĚN2 ɇ>yHA>yͺȝ>zMIN>yLAGAB>y̢>NXě ɇ>7JySHESH<VHĚU2>VHyU ƟU ƟU<VHr2>1s ƘA>NUzBALAG<NUzͱɇ>zME ƟEN>zSHA3>zσ>qD>r ƘӃ>V9qK<V9r Ƙֆ>ySHITA Ɵӊ>qL>r ƘAL>yDIM2>yӊ>yHA>yKAD3>zI>yй>yUSH>rAN>rEPH>qMAR>t ƘKUG>NAĚй<NAqN>r ƣAN>sƟNAGA ʤAN ƟNAGA>1Ĝɢ>sƶ֮<2rй>2qPIN>qRAD>t ƘԖ>rKAB>qSAL2>rH>s KABA ɇ>1tƣASH ƣͶ>1Ĥ ǓASH ƣASH ƣͶ>ĜְƣְְƣְPAP<2tZIDA ɇ<2s2>4sGAB>pBA>rD>s ƘDISH ɇ>U9rG3<U9rHAR2>v ƘAB2>U8ĜNI>ĜZA>rL<UAs ƣBAL>sAG>rR>sA2>qI>r ƘA>yԑ>yͺȝ>qU>r ǓBU>2sƣBU AB<2ĚƘNA2>U0ĚUN<U0rLUG>1u ƣBULUG>rR>s2>pDA>r Ƙσ>TUrG<TUs KISIM5 ƘA ƟՖ>ġMAR>ĠBALAG>ġI>ĠGA>Ģ ƟՖ>ġI>ĢR2>ġUD>ĠHA>ĠIR>Ģ ƟLU>ĠKAK>ĠLA>ġU>Ģ ƟMASH2>ĢM>ĠNE>ĠӬƟPAP>ĠSI>Ġσ>ĠU2 ƟGIR2>ĨՖ>LIġSH<LItƘԖ>T7s3<7PrM<LIrR>sA3>t4>qI>rB>rM>s ƘՋ>T1zй<T1zU U U>T1s2<T1t ƘUD>T1rN<T1s KASKAL U ֍̳>rSH>t ƟSHU>L7qU<L7r ȝ>1sƣDU<1sΆ>1rB>s ƘӃ>zй>L2s2<L2rG>s ƘANSHE>SRĚSH>Ĝ ҧǷ>zDIN>ĚUN>zֆ>zGA>ĚI>ěR2 ȝ>ěSH>zHA>ĚI>zͺȝ>z͞>ĚUR>ěؐ>ğ Ɵ͞>zLAK-020>ěM>Ĝ ƘԖ>ĚUH Ɵӊ>zՖ>ĚES>ĚI>zNI>zPI>zй>ĚI ȝ>sUD<TIrH>rN>s3>t ȝ>y ȝ>s4>rR2>pE>q ƣE NUN ƣ̢>1rƘPAP<1q2>1r ƘA ƟHA ƟDA>yԑ>yԖ>T5yMI<T5yPAP>T5ySAL<T5zHE>yU>qDIN>qGIR>qL>qN>r ǓEN>3sʤEN>sɢ>sƘGAN2<5Ĝ ɇ>yME>qREN>3rIN2>u X>SRqSH2<SRt ǓӃ>SRqZEN<SRt SHESHIG ƘͶ>SRĢHI>Ģͺȝ>ĢLA>ĤL>ĢME>ĤS>ĢSU>uƘA<SYě ƟLAL>Ĥ ƘLAL>ěN>Ěл>ĚDUN3 ȝ>ģ ȝ>ĚGUD>JYĚHA<JYĜ ȝ>Ěͺȝ>Ě͞>Ġ ɢ>ěU3>ĚLA>ĜL ƘLAL>ěI>ěU>Ěй>JPěU>8SĚU2<SIěD>pGA>r ȝ>r2>s ƣGA2>1HtƘA ƟDA ƟHA<1HĠHA>ĠՋ>ĚB2 TENU ƟTAB>ĚN>ě ƟKAK ƟA>JGĚSH<JGĜ2>JGĝ ƟGAL<JGzл>ěHAR2>S6ěR ƟRA<S6ĚUR>Ĝ ƟRA>zDA>ĚI>ěM ȝ>S2ĝƘй<S2ĚUB>ěG Ƙͺȝ>S1ģ͞>zEL<S2ě ƟLA>ĚN>ě Ƙͱɇ>ĚREN>RZzGA>ěN2 ɇ<S0ěR>Ĝ ƟDI>RZĢNE>ĚI<S0ě4>Ĝ Ɵ",
  "A>ěR2 ƟSU>zHA ƟA>RXġLU ƟӃ<RXěL>Ĝ ƟLA>ĚI ƟLI>ĚUB2>zͺȝ>ĚSH ƟHU ƟͶ>zKAK>ěSKAL>ĚID>Ĝ ƟLAL>ĚU3 ƟAN>ěSHU2 Ɵ͞>RMzLA<RMěM>RMĜ ƘԖ>ĚUH>zME ƟEN<ROĚI>ĚUSH>RNzNE>ě ƟE2>ġGI>ĚUN<RQĜ ƣ̢>zPA>zSAL>ěR>ĚHE>Ĝ ƟTUR>ěID>ĜM>RJĚUM<RJzσ>zU>ĚD>ě ƟDU>zZIZ2>RFrBA<REt ǓGABA>uǨȈƴ>RDrD<RDs ƣӈҏƣԑ>rL>s ӈƣӈҏƣԑ>sAM>rM>rN>s2>t ǓGAN2>2uƣGAN2<1uɇ<1rR>2s3>rSHAN>qE22>HPrSHTIN<HPw ƘԖ>ĝU>QYqI<QYr ǓGI>2sƘE<2yU>r4>1s ǓGI4>1tƣGI4<1rDIM>1rG>HGrR2<HGt ȝ>s3>t ƘA ƟՋ>Ěͱɇ>ĚՋ>ĚLU ƟՋ>ĚPA>rSAL>sH>t Ǔӊ>uɇ>2vIMES л<2ĚGISH Ǔӊ>QFĚσ<QFqU>1r ǓGU>r2>s ȝ>4tƘͺȝ>Q6zKAK<QBĜ Ƙͺȝ>z̢>zSAL ƟTUG2>rD>1s ƣGUD LUGAL>2tƟGISH Ƙσ>Q3tƘA ƟԖ<Q6zԖ>rL>1rM>s Ƙй>rR>s7>sUN>tSH>pHA>r ȝ>1sɇ<1w ȝ>PVrL<PUqI>r ƘͶ>ě ƣӏƘͶ>PSě2<PSyл>y̳>yGAD>yKIN>y̢>yй>yU>qU>rB2>t ƘAN>Ěן>Ě͞>ĚLISH>ĚUD>rL2>rSH>FYpI<FYq A>qB>qDIM>t ƣIDIM BUR>Ğɢ>qG>rI>s DIB>tȝ>2tƣͺSHIR ƣSHIR UD ƣUD<1tRI<1qL>2r Ƙͱɇ>r2>qM>r ǓIM>1sʤIM>sɢ>sƘσ<3rIN>3qN>qR>qSH>pKA>r ƘA>zD>Ě ƟKU3>zNSHE>F7zSH2<F7ě3>F7yл<F7ĚLAG>ĚR>zI>zU>OGyֆ<OGzSH2>yGA>ĚL>ĚN2 ɇ>ĚR>ě ƟSHA3 ƟA>zI>ĚR2>ĚSH>EVĜ Ǔӊ<EUĝƟSAR<1zU>1ĚD>ETĚR7<ETyӏƘASH2>ETyՋ<ETzM>yKA>O2ĚK<O2zI>ĚD>yLI>zU>ĚM>ENyME<ENĚ ƟDU>ĠGI>ĠTE>zI>Ě ƟNUNUZ>yNE>zUN>yPA>EGzI<EGyRU>ySA>ĚR>zHA>ĚE>ĚID>ĚU>ěL>E9zIG<E9zUHUR>yؗ>zU>E7yU<E7z U U>NEz2<NEzD>zMUM ƘPA>zR>NCĚ2<98zSH<E4yZI>r2>s ǓKA2>rB>rD2>s3>s4>s5>t ƣKAD5>rK>s Ƙͺȝ>rL>s ǓKAL>1tƘл<1rM2>1s4>rP ELAMITE>CZrSKAL<CZv ъƘU ƣъƘU>wƣKASKAL ъƘU ƣъƘU>qӃ>qI>r Ƙл>yU>zD>rD>rN>rSAL>sH>sIM5>v ƣKISIM5>qU>r ƣӏƘASH2 KU ƣӏƘASH2>r3>r4>s ǾƁ>r7>rL>s ȝ>rN>rR>s ʤԖ>rؐ>qWU318>pLA>rGAB>u ɢ>1EvƘA<1EĜ ƟDA ƟHA>Ģԑ>ĢLAL>ĜL>ĜN>ĜSH ZIDA ɇ>ěл>ĜI>ěDAR>ěEN>ěGA>ĝR>ĜI>CIĜUD<CIĞ ƟGUD>ě",
  "HA>ĝL>ĜI Ƙ̢>ěͺȝ>ĜM>ĝ ƟHA>ģLU>ěKI>ĝN>ĜU3>ĝL>Ğ ƟӏƟA>ěLAGAB>ĜISH>ĜU>ĝL>ěME>ĝ ƟEN>ĜUSH>ěNE>ěSHE ƟSUM>ĝITA ƟGISH Ɵֆ>īɇ>ĝU2>ğ Ɵؐ>ĜUM>ěTAG>ĝK4>ĜE ƟA ƟSU ƟNA>ěU>Ĝ ƟA>ĢU ƟU>Ĝ2 ƟͶ>ĜD>ĜSH>ěZU ƣZU>KPtR<KOu ȝ>2z ƣы֍й>vƘй<3Ğ ƟSUM>rHSHU>2rK-003>KJu21>v5>u30>u50>v1>u62>u79 ƣLAK-079 ȝ>u80>v1 ƣLAK-081>u92>t130>u42>t210>v9>u20>v5>v8>u38>u65>v6>t343>v7>v8>u83>v4>u90>t441>v9>w ƘGU>ĝՋ>ĝӬƟLU3>ĦӬƟLU3>ĝU2 ƟBA>u50>v7>u70>u83>u90>v2>v3>v5>t550>t608>u17>w ƘͶ>ĝл>ĝDUN3 ֍ȝ>ĝKU3>ĝLA>ĝؗ>ĞE>ĝU2>ĞD>ĞRUDA>u36>u48>w ƘDUB>ĝGA>ĝՋ>Ġ ȝ>ĝNI>ĝӬƟӬƟLU3>ĝSHESH ƟKI>ĝUD>ĞRUDA>t724>u49>rL<MEs ƘLAL>rM>s ƘԖ>Ĝ ƟRU>qI>rL>rMMU2>rSH>qU>r Ƙл>r2>s ǓLU2>Kt֍ƘͶ>LItʤLU2<LItΆ>1Ě Ƙл>ABuQUARED<ADtɇ<3uIMES AL<Jzл>z̳>M2zӃ<M2ĝ ƟLAL>AXĞɇ<AXzͱɇ>zן>M0ĚI Ƙл<M0zIM>zKAD2>Ĝ3>ĝ ƟͶ>ĚI>zLA ƟͶ>ěGAB>zME ƟEN>zNE>ĚU>zPAP>LQĜ ƟӬƟLU3>zSHU<B6ĚI ƟͶ<ALěK2 ƟBU>zσ>LQĚUG2<LQr3>5rGAL>u ʤLUGAL>1wVER LUGAL<1vΆ>1rH>rL>rM>s ƣLUM>ě ҏƣԑ>pMA>r ȝ>1sƘσ<1r2>1rH>rR>rSH>t2>qE>rS>sH>9UqI<9Ur ƟZA7>L0rN<L0qU>r ƣMU>rG>s ȝ>rNSUB>rRGU2>rSH>t ǓMUSH>5uƣMUSH<2ĝ ƘA ƟNA>ĤGA>KOĤKAK>uƘA<KUĚԖ>ĚZA>t3>3u ȝ>3vƘA<3Ĝ ƟDI>ěDI>ěZA>9CpNA<9Br2>r4>9ArGA<9At INVERTED>uʤNAGA>1uƘSHU ɇ<1tR>1rM>1s NUTILLU<1s2>1qE>r Ά>2sƘA<2yUD>qI>1r ƘE>r2>rM>s Ƙͱɇ>ěR Ɵͱɇ>rN>8Ts9>sDA2<8Uv ƘAN>ĝSH>ğ ƟͶ>ĜBAL>8RĜDIM ȝ>B4ĜGI<B4ĞSH>B4ĝUD<JXĞL>JXĜHI>ĜKESH2>ĜLAK-050>ĜՖ>ĝE Ɵͱɇ<K1ĜNE>ĝUN>ĜӬƟPAP>JZĜй<JZğ ƟA AN>ĦSH>Ĩ ƟͶ>ĜU>JWĝ ƟU>ĝ2 ƟͶ<JXĝRUDA>JXĝSH<JXrSAG>qU>r11>t ƣNU11 BUR ƣBUR>36uǨȈƴ>59uɇ<5BrN<35s Ǔ̢>7ğ ыƣLAGAR>tыƘԑ<8ğՖ>ğSAL>Ģ ƣNUN ыƘSAL>ğUSH>tƣ̢>1tɇ<1sUZ>3u AB2 ƘASHGAB>ğBI>ğDUG>ğGUD>ğͺȝ>ğKAD3>ğLA>ğNE>ğSILA3>ğU2>vKISIM5 ƘBI>Ĥ U>p",
  "PA>rD>rN>rP>qӃ>u ǂ>7PqI<7Pr ǓPI>9sƘA<9zB>yBI>zU>yE>yI>zB>yU>z2>rR2>7GsIG<7Fu ʤPIRIG>3vƘKAL<3ěUD>ěZA>pRA>1rB>qI>qU>pSA>rG>1s ȝ>Ix ƘHA>HWtNUTILLU<IHtƣSAG>ItƘA<HzDU>ěB>zEN>IDzHA<IDzͺȝ>70zKAK<70ĚUR>zLUM>zMI>z̢>zSAL>ĚHE ҧǷ>I7ěID<I7zTAB>ěK4>I6zU2<I6ĚB>ĚM>ĚR>ĚSH>rL>2s ъƘASH2>rNGA2>rR>qHA>s3>t ƘA>Ěл>Ěӊ>ĚNE>Ěؐ>ĚTUR>ĚU>ě ƟA>s6>t ɇ>HLsB6<HLsR2>rE>s HU>tƣй>HIě ӈƣӈҏƣԑ<HIĜؔƣؔҏƣԑ>tƟHUB2>HHyNAM2>ySAR>sG9<HJsN>sSH>u2>u֗>rID>t ƘA>ĚIM>sM>t ƘA>ĚBAL>ěULUG>ĚDIN>Ěԑ>ĚՋ>ĝ ȝ>ĚKUSHU2>ĚLUL>ĚMUG>ĚSAL>sNIG>sR>t ƣSHIR BUR ƣBUR>1uɇ<1sTA>1rU>s ƣƱSHU>s2>t ƟDUG ƘNI>GSzE2 ƘAN>sBUR<GTqI>r ȝ>sƘσ>GRrG<GRs4>t ƣSIG4 ؐ>rK2>rLA3>qU>r ƣSU>rD>s2>rHUR>rM>sͶ>rR>s9>pTA>r ǂ>sȝ>2sƘHI<2yMI>rB>1s ƣؔNI ƣNI DISH ƣ̳>tɢ>rG>s ƘBI>zGUD>zй>ěU>zTUG2>zUD>rK4>t ƟSAG>FYrR<FYqE>r ȝ>qI>r ɇ>r2>47rL<47rR>s ƣTIR>1ě ӈƣӈҏƣԑ>tƘσ<2qU>2rG2>rK>rM>s Ƙͱɇ>FLzƶ̳>rR<FMs ƣTUR ZA ƣZA>pU>q GUD>rƣU PA ƣPA ҏƣԑ>1ySUR ƣSUR>yU ȀƣU Ӷ>rU>3Ss U<3Wq2>3qB>qD>r ȝ>5sKUSHU2<5sΆ>5z Ƙл>sƘл<6yMI>yU ƟU ƟU>ħ ȝ>rUG>3qM>r ƘLAGAB>yME>3DĚ ƟDA<3DySHA3>yU>rBIN>rUM>t Ƙ͞>ĚPA>qN>r ȝ>qR>r ǓUR>sΆ>r2>s INVERTED>EOtƘA ƟHA<EOĠNA>ĚL>zHA>z̢>zU2>ě ƟͶ>ġBI>ĚD>EHr4<EHrI>s3>rU>s ƘA>ĚSHGAB>zȊ>zDARA3>EBĚUN<EBzGA>ěL>ěN2 ɇ>ěR>ĚU>zHA>zՋ>ĚM>ĚSH>zKI>zLAK-668>E1ĚU3>ěM<E2zMIN>zPA>zй>ĚIG4>zTU>zU ƟGUD>ĚD>ĚRUDA>sDA>u ƘU>qSH>s ƘA>zKU>ěR>zσ>s2>1sUMX>sX<2qTUKI>2qZ3>s Ƙ͞>rU>pZA>r ЫƘԖ>1sɇ<1r7>DErG<DDrMX>qE2>qI>r ƣZI>r3>rB>s KABA ɇ>rG>rZ2>qU>r ƣZU ƟSAR>D3r5<D3s ƘA>zƶDISH ɇ>D2rBUR<D2rM>cP ʾƯǋ=7PAeƀSTRAW>2K4LdCAKE>2KdIDO=8O0cRLING STONE>2J57eY ɯʢ=71Mgָ̑<63oOR<1iOP>YPdRENCY EXCHANGE>2J28jƏ=4KeY ƍRICE>2QIEdVED STEM ",
  "ёƙƭ=7S1cSTARD>2IVGeOMS>NOcT ȕMEAT>ITbYCLONE<19LcLINDRICITY=6Y5cPRIOT ˠA>1976rE>rI>rJA>2sO>2rKA>1sE>sI>sO>sU>rLA>sE>sI>sO>sU>rMA>sE>sI>sO>sU>rNA>sE>sI>sO>sU>rO<QrPA>QsE>sI>sO>sU>rRA>sE>sI>sO>sU>rSA>sE>sI>sO>sU>rTA>sE>sI>sO>sU>rU<19rWA>19sE>sI>sO>rXA>1sE>rZA>3sO>2eO-MINOAN ƙCM001>7RKw2>w4>w5>w6>w7>w8>w9>v10>w1>w2>xB>w3>w5>w7>w9>v21>w3>w4>w5>w6>w7>w8>w9>v30>w3>w4>w5>w6>w7>w8>w9>v40>w1>w4>w6>w7>w9>v50>w1>w2>w3>w4>w5>w6>w8>w9>v60>w1>w2>w3>w4>w6>w7>w8>w9>v70>w1>w2>w3>w4>w5>xB>w6>w8>w9>v80>w1>w2>w3>w4>w5>w6>w7>w8>w9>v90>w1>w2>w4>w5>w6>w7>w8>w9>u100>w1>w2>w3>w4>w5>w7>w8>w9>v10>w2>w4>u301>w2>cRILLIC ƢƃA=SWz ƀȇ>5BğƠ>1zBKHASIAN CHE<Mĥ ƀư>1ĢDZE>XĢHA<1KzLEUT KA>39yBARRED O<1IĠ ƀƠ>1ĚSHKIR KA<22zE<3ZzIG ͬ>2GĚNOCULAR O>VZZzLENDED ͬ<GzROAD ͍<EzϹI=SMyCCHE>W3JzHE=TJě ƀư>3YĢʏ>1PġƊƋ<1Oz΢Ȳͬ>VXBzROSSED O>1TyDCHE<VVYzE<7SzJE<IěRV>W1XzȌΤO>ZğO>17zWE<OzZE=SLěLO>W1OĚHE=SVĚWE>W36ĚZE>5ěHE<VVIyE<71z ƀƠ>5AzF<5KzL<9Ě ƀư>7MĠơ<SĠƑơ>DĠȓ<2JzM<4PĚ ƀȓ>4WzN<4WĚ ƀư>3OĠơ>10ĠƜơ>2OĠƑơ<6Ġȓ<2HzR<4PĚ ƀӽ>31zS<31Ě ƀư>3Syӆ<1KyGHE<2Ně ƀư>6AġƑơ<2QġƋ<2ħ ƍơ>2Vġؤ<2YzJE<3XyHA>XĚ ƀư>3WĠơ>21ĠƋ>1ĚRD Ə<5WzWE>W2XyI=T4z ƀƠ>5Nğǘ<5Zğǅ>5WzE<5PĚ ƀȇ>5CĠǘ<5YzO>ĚTA>W1WěצA>Fġмͬ=VGġʊȲͬ>VZJġE=V8ġȲͬ>3ġYAT>VZDzZHITSA=VOğ ƀƗ̵ǵ>1yJE<32yKA>HĚ ƀư>3JĠơ>14ĠƋ<11ĠƊƋ<2zמCHE>1AzJE<5BzOMI DE>6RĞJE>1ĞZJE>3ĝLJE>1ĝNJE>1ĝSJE>1ĝTJE>1ĝZJE<AĚPPA<3OzSI<IyLHA>4LzITTLE ͬ<4UzJE<2LyΤO>W2MĜםUK<UyNEUTRAL YER>3zJE=SQyO>Jz ƀƠ>5Jz̺<3Qĝ ƀTITLO>RzT>1yPE<2NĚ ƀư>78ĠƑơ<3IzSI<1IyQA>4PyȀDZE>VU1ġTSE>RġYU<CġZE<VUSzHA>5z͍֞<4CySCHWA>2Lĝ ƀƠ>1zEMISOFT Ə<26zHA<2SĚѤ>ĚHA>40Ĝ ƀư>2ZĚ՛I<7Hğ ƀȓ>",
  "34ĞU<3GĚWE>W3RzOFT DE<1GĝEL>1ĞM>1ĝƏ=TOzԀU>3LĢ ƀƋ>1yTCHE>VZ5zE=TEĚ ƀư>3TĠƑơ>VZ1zSE=TIĚHE<RĚSE>W3OĚWE<2zWE<2yU=TFz ƀƠ>5OĠȌǀ>1ğǅ<4zK<3AĚRAINIAN IE<38yVE>DyWE>7DyYA<6LĚE>6GĚT<52zERU<1JĜ ƀպYER>W10ĢƠ=ZCzI<6PzN>W2EzU=TQyZE<NĚ ƀư>3Kġʏ>1XĚMLYA>VVLzHE=T2ě ƀȇ>4Qġư<17Ģʏ>1XĚWE>VXJsɅA IE=YCĚEN GHE<1CĚTE TSE>FjӘ>VYHjƃMULTIOCULAR O<GqPALOCHKA=XSqƖƢEL>4TMjPAYEROK>R4JjƖƃA=TSx ƀȇ>4GĝƠ>1xBKHASIAN CHE<Mģ ƀư>1ĠDZE>XĠHA<1KxLEUT KA>39wBARRED O<1IĞ ƀƠ>1ySHKIR KA<22xE<34xIG ͬ>1LyNOCULAR O>VZZxLENDED ͬ<GxROAD ͍<ExϹI=UUwCCHE>W1CxHE=UFz ƀư>33Ġʏ>1PğƊƋ<1Ox΢Ȳͬ>VXBxROSSED O>1TwDCHE<VVYxE<6XxJE>TzRV>VZQxȌΤO>ZĝO>17xWE<OxZE=UTzLO>VZHyHE=V3yWE>W0ZyZE>5zHE<VVIwE<66x ƀƠ>4FxF<4PxL<9y ƀư>6RĞơ<SĞƑơ>DĞȓ<2JxM<3Uy ƀȓ>41xN<41y ƀư>2TĞơ>10ĞƜơ>2OĞƑơ<6Ğȓ<2HxR<3Uy ƀӽ>26xS<26y ƀư>2Xwӆ<1KwGHE<1Sz ƀư>5FğƑơ<2QğƋ<2ĥ ƍơ>2Vğؤ<2YxJE<1QwHA<Ey ƀư>31Ğơ>21ĞƋ>1yRD Ə<51xWE>W22wI=U0x ƀƠ>4Sĝǘ<3Sĝǅ>3PxE<4Uy ƀȇ>4HĞǘ<3RxO>yTA>VZPzצA>Fğмͬ=VHğʊȲͬ>VZJğE=V9ğȲͬ>3ğYAT>VZDxZHITSA=VPĝ ƀƗ̵ǵ>1wJE<VwKA<Uy ƀư>2OĞơ>14ĞƋ<11ĞƊƋ<2xמCHE>1AxJE<34xOMI DE>4KĜJE>1ĜZJE>3ěLJE>1ěNJE>1ěSJE>1ěTJE>1ěZJE<AyPPA<3OxSI<IwLHA>4LxITTLE ͬ<4UxJE<ExONG-LEGGED DE>4RRwΤO>R8NĚםUK<UwϪO<R7TxEUTRAL YER>R7WxJE=UYwO<Sx ƀƠ>4Ox̺<3Qě ƀTITLO>RxT>1wPALOCHKA>27xE<40y ƀư>6DĞƑơ<3IxSI<1IwQA>4PwȀDZE>VU1ğTSE>RğYU<CğZE<VUSxHA>5x͍֞<4CěӀVE>4QSwSCHWA=YHě ƀƠ>1xEMISOFT Ə<26xHA<1XyѤ>yHA>35Ě ƀư>2Zy՛I<6Mĝ ƀȓ>29ĜU<19yWE>W1KxOFT DE<1GěEL>1ĜM>1ěƏ=UKxԀU>2QĠ ƀƋ>1wTALL ֎Ə>4PGěTE<2ěYAT>2xCHE>R9NxE=UAy ƀư>2YĞƑơ>VZ1xHREE-LEGGED TE<R9IxSE=UEyHE>KySE>W1HyWE<2xWE<2wU=UBx ƀƠ>4TĞȌǀ>1ĝǅ<4xK<3AyRAINIAN IE<11xNBLENDED UK>4S",
  "3wVE=TUwWE>6IxIDE ES>4MDwYA=UNyE>5LyT<52xERU<OĚ ƀպYER>W05ĠƠ=ZDxI<4IxN>W07xU=UMwZE<Ny ƀư>2Pğʏ>1XyMLYA>VVLxHE=TYz ƀȇ>3Vğư<17Ġʏ>1XyWE>VXJqɅA IE=YDyEN GHE<1CyTE TSE>FjѝƏ<1Faһ>5GDg KNIFE>2KSGhƀƜGUARD=94MmƐGUARD>cLET ƌ<2KFcNCER>2KAYdGO<82cRK ͒=7F7gUNGLASSES>2JMQcSH ƌ<5QfƀƜؤ=94ZeӀ˗ɮ>153DhΧ<4hǡƔƆ=7TRcTA LINK ESCAPE=GbC1>c2>c3>c4>cS>3FbEAF ͣ>2RSUcCIDUOUS ԁ<1B0eMAL EXPONENT ƌ=73Ci˲KEY ƌ<2AdREASE FONT SIZE ƌ>2K3OcER>Q8cGREE CELSIUS=6IRhFAHRENHEIT>5hƏ=4WcL<1DdETE<dIVERY TRUCK>2R6IdTA ƫTO=6SCcNTISTRY ȗȡǱƍǣ>A4Ī ƀƵ<8İƧ>2İѡ>2xʨƍǣ>2Ĩ ƀƵ<8ĮƧ>2Įѡ>2xƊƍʜǷ>3īƩ<DĤ̾Ƿ>BĨƩ<DĤѡ>7ĠƀƵ<6ĥƧ>2cPARTMENT STORE>2JOOcRELICT HOUSE Є<IcSCENDING NODE=7IJdERET ƢƃAY>17UOxBEE>5xCHEE>2xDEE<1xEF>4yL>8yM>yN>zG>yR<4yS<4zH>1yTH<4yW>BxGAY<FxH<8xJEE>5xKAY>xȂA<LĝH>ĜE<2ĜI<1ĜO>3ĝO>xOI>WyW<PxPEE>3xȖA<9ĞH>ĝE<2ĝI<1ĝO>3ĞO>xTEE>7yHEE>8xVEE<2xWU<CxYEE>xZEE>EyHEE>1iƖƃAY>JvBEE>5vCHEE>2vDEE<1vEF>4wL>8wM>wN>xG>wR<4wS<4xH>1wTH<4wW>BvGAY<FvH<8vJEE>5vKAY>vȂA<LěH>ĚE<2ĚI<1ĚO>3ěO>vOI>WwW<PvPEE>3vȖA<9ĜH>ěE<2ěI<1ěO>3ĜO>vTEE>7wHEE>8vVEE<2vWU<CvYEE>vZEE>EwHEE>1fT>1BBNg ISLAND>dKTOP Һ>CNiWINDOW>1AcVANAGARI ǍƏ=1V4mCUTE ǵ<SlCARET>VJ9lȰ<VIUm˿Ƭ>9rǉ<3sȐ<1rǊ>4rǛ<8rƪ>5sIX<1rƤ<3sWO<1rǚ<2mȌȰ<1lGAP ̴>VIRmRAVE ǵ<VJAlх>VJBlJAIN OM>1lƃA<VLKtA>tI>9tU>3tW>2OtY>VIGsBA<VKItBA>2AtHA<2AsCA<JuNDRA A>2FzE<2TzO>3tHA>9sDA>AtDA<5uDA>2KvHA<YuHA<1MtHA>4sE<OsFA>26sGA<1ZtGA>2RtHA<2RuHA>1TtϨǽ>YsHA<1WtѦYA>1SsI<37tI>sJA>JtHA>tJA>2MsKA<2VtHA>uHA>1UsLA<13tLA>uLA>sMA<6uRWARI DDA>21sNA<28tGA<FtNA>9uNA>5tYA<BsO<BtE>2NtOE>sPA<22tHA>sQA>18sRA<14tHA>18tRA<18sSA>6tHA<2u՛A<1EyE>9yO>3tSA>",
  "10sTA<JtHA>tTA<6uHA>sU<NtE>30tU<30uE>30sVA<1UtȳL<15ěL>2CĚR<2EěR>2CsYA<1DtYA>1BsZA<4tHA>TlOM<15lƙƸ<26rɾ>1Mqǃ<1Oě ҷ>VLHĜƤ<1ĝWO<1ĜǤ<2qƗԭǤ>qʎSPACING ɑ<VIBqƱǃ<35qɹ>1NqPUSHPIKA>VJVq·>3rPACING ǃ<AqǤ<VJ9sɟ<22mTRESS ƙЂ>26xء<1lƷƙAA<JxI>9xU>3xW>2xY>VJJwϟE<VJUĝȂE>FĝO<CwE<2wI<8xI>wO>AxE<HxOE>wΪE>IwȖE<8ĜO>3wU<9xE>KxU<KyE>KwǪL>AğL>ĞR<WğR>dICE CONTROL ̂=KpǛ<3pSTRING>3IpƤ=JqWO<1bʏ>45dMETER Ə>6S7eOND Ǆ<1OiSHAPE ƀA ƽʖ>2K0Riؘ>L7iƀʜƻǹ=8IHnƜƻǹ<3nƐƻǹ>n̾ƻǹ>cE FACE-1<WOj2>j3>j4>j5>j6>dSEL ײ>2JQKcFFERENCE ̟=6RZcGIT Ƭ=1Kl ɂ>2Q4Wmǻǽ=77Zgǉ=1Hk ɂ>2Q4Wlǻǽ=77WhȐ=1Gk ɂ>2Q4Wlǻǽ=77VgǊ=1Lk ɂ>2Q4Wlǻǽ=780gǛ=1Dj ɂ>2Q4Wkǻǽ=77Sgƪ=1Jl ɂ>2Q4Wmǻǽ=77YhIX=1Ij ɂ>2Q4Wkǻǽ=77XgƤ=1Fl ɂ>2Q4Wmǻǽ=77UhWO=1Ej ɂ>2Q4Wkǻǽ=77Tgǚ=1Ck ɂ>2Q4Wlǻǽ<1dRAM ʼΔ<5X7qLY ס<2uUMAN>lGREATER ة=7M4uIN>2lHEAVENLY Δ>2CMPmUMAN Δ>lLESSER ة=7M6tIN<1cMENSION ORIGIN<NWcNGBAT ȴǸƥƬ>UTġǉ<3ĢȐ<1ġǊ>4ġǛ<8ġƪ>5ĢIX<1ġƤ<3ĢWO<1ġǚ>2IDLěƹʚ=7T5iҙȴƥƬ<Cğǉ<3ĠȐ<1ğǊ>4ğǛ<8ğƪ>5ĠIX<1ğƤ<3ĠWO<1zƹʚ>7zǸƥƬ>HĪǉ<3īȐ<1ĪǊ>4ĪǛ<8Īƪ>5īIX<1ĪƤ<3īWO<1Īǚ>2IDCĤƹʚ=7TFcRECT CURRENT ȗʰΈ<SGhHIT>2JOBcSABLED CAR=7NXePPOINTED ԫRELIEVED Ǒ>2JIVnǑ<7dCONTINUOUS آƌ=70IdGUISED Ǒ>2KTXcTTO ƕ=9HFcVES AKURU ƥƬ>1A38sǉ<3tȐ<1sǊ>4sǛ<8sƪ>5tIX<1sƤ<3tWO<1sǚ<2nȌȰ<CmͷȕTEXT ƕ>1mGAP ̴<1mƂRA<4mƃA<1TuA>tBA>WuHA>tCA<IuHA>tDA>AuDA<5vHA>uHA>4tE<OtGA>7uHA>tHA>TtI<17uI>tJA>FtKA<7uHA>tLA>QuLA>5tMA<AtNA<5uGA<FuNA>9uYA<5tO<CtPA>MuHA>tRA>5tSA>4uHA<2uSA>tTA<GuHA>uTA<6tU<IuU>tVA>ZtYA<4uYA>tZA>8mƛRA>ItYA<2mPREFIXED NASAL Ə<1mƙƸ<4rǃ>rՅ>rɹ>5mǤ<5nΨƙAA<EyI>6xE<2xI<4yI>xO>5xU<5yU>dIDES=6QReNG MASK>2L23eSION Ə=6VkLASH>6JHj֮>4XdORCE ƌ>RQcYA LAMP",
  ">2KF9cZZY Ǒ<V3gƌ<AYbLE=GbNA ƗHELIX>2RX7bO ʇLITTER ƌ<N1cCUMENT<69i ƀ՟<JoӼ<2s ƍ՟>cDO>RTcES ʇCONTAIN AS ׵=6Q4uϫSUBGROUP>66ģ ʵ˼>1jDIVIDE<5Lp ƀȀNEGATION ̭>1QHjFORCE<1MOjPRECEDE<1Aq ʵ˼>2NlOVE<1GjSUCCEED<17q ʵ˼>2NcG>2JW3d Ǒ>WdRA ǍƏ<17GBgƃA<1NoA>oI>5oU>1nBA>MoHA>nCA<IoHA>nDA>AoDA<5pHA>oHA>4nE<MnGA>5oHA>nHA>SnI<14oI>nJA>DoHA>nKA<8oHA>nLA>PnMA<3nNA<5oGA<FoNA>9oYA<5nO<BnPA>LoHA>nRA>4oRA>6nSA<2oHA<2oSA>nTA<FoHA>oTA<6pHA>nU<HoU>nVA>WnYA<3gƙƸ>Jlɹ>2lǤ<1nɟ<1gƷƙAA<CsI>7sU>1rE<3rI<6sI>rO>6rU<6sU>rǪR>ĚR>cLLAR Ə=10dPHIN>2QRRcMINO TILE ƒԦ<SCw-00-00>ě1>ě2>ě3>ě4>ě5>ě6>y1-00>ě1>ě2>ě3>ě4>ě5>ě6>y2-00>ě1>ě2>ě3>ě4>ě5>ě6>y3-00>ě1>ě2>ě3>ě4>ě5>ě6>y4-00>ě1>ě2>ě3>ě4>ě5>ě6>y5-00>ě1>ě2>ě3>ě4>ě5>ě6>y6-00>ě1>ě2>ě3>ě4>ě5>ě6>mƊԦ>u-00-00>z1>z2>z3>z4>z5>z6>w1-00>z1>z2>z3>z4>z5>z6>w2-00>z1>z2>z3>z4>z5>z6>w3-00>z1>z2>z3>z4>z5>z6>w4-00>z1>z2>z3>z4>z5>z6>w5-00>z1>z2>z3>z4>z5>z6>w6-00>z1>z2>z3>z4>z5>z6>cNG Ə=6GBcOR>2KU6cT ƅ=K9eК>672eǄ>3WeФ<4XdӻƵ>QFiROSS<12Ohӄ>1TOhȟǑ>2JWRhOBELOS=93NhʗЁ>2hˆ>1Fiϓ<MOhTRANSPOSITION ͡>KTcṴ̏ǵ=KDhȴƥƬ>6QMvǉ<3wȐ<1vǊ>4vǛ<8vƪ>5wIX<1vƤ<3wWO<1pƹʚ>7iOLON ˼>12TiϚ״<J9hһ<1I6i؁̃>24OhǬƕ<23Yhґǆƕ<TiYPHEN>2SGhɝ<2DWlRSECTION>4LhƜҴȮƓ>1C2iOGICAL ָ>59pOR>jW ɮ<20Tk-9 ǆƕ>6lREVERSED-9 ǆƕ>2SJhNESTED ǒ<PSoǿ<1x ƀǩ>1hɎΛ>OJhФ<T9iRECEDES>5CjIME<22Wm ǆƕ>356hǗƕ<34NhƐҴʱƓ>1U6h͕Ǆ>9YiΫɓ<4Voв>iTACKED ɂ>S9jROKE ʇƏ<NXiUBSET<1LOjCCEEDS>1KBjђ<1KBjSPENSION ƕ>29Ehв<29DiP ̃>1LJhƊȊ<1DFt ƗƜʧ>1D8ěƐʧ<1MIuƜʧ>1MFqɮ<24Th҉Χ>17W5g-ENDED MULTIMAP=89RhȟƫɊʵǒ>56yǿ<1mɼƫɊʵǒ>2Ġǿ<1uȮʵƫTO>2MuʱʵƫTO<1hSTRUCK ƢC<1YVwΗ>1NwH<1DwN>7wP>3xI>11wQ<11wR>2wZ>6o΅ƢD>W",
  "vƖD>ěE>ěI>ěJ>oN-ARY SUMMATION<9oƖΗ<3uPI<1gD ѩƏ>12DiѳƏ>iƌ>120dGHNUT>2HYKcԆȕPEACE>DCcյƞ=6X0f֋ȓ>1A2fƐǌ˒<1AMf̃<25j ƀǟƇ>1N0eȬϯƧ>2IIXoƖϯƧ>1oǠƀƜƻǹ=8A0ĜƐƻǹ>eWARD FACING ơ>2JHAu ƀɑ>1qΥơ<1Ĝ ƀɑ>1iS ANCORA=93Ol،<2GXp ƍƐǮȥǥ>2LNNqȻȊ=6NBqƾȕȅƆ>25qɊȊ>1ELqƀɰ˖<1GEvƗƋ>15vǁƞ>2KVRvƒƋ=83SvȷǠƞ>2JGIvǙǠƞ<4vΥȓ>43vƖǁƞ<3SěǠƞ<Gvў˖=6NMz̼>kƯƆ>1UBqȴƨƆ>3NkɫƆ>2J03k˨Ɔ=6OZlȌƆ<Gk̓Ɔ>2KWZkɄƀǎƜ̞ǔɄƀǎƩ=86DĨȅɄƀǎƩ>9ġȻȊ<EġɊȊ<8ĠϜ<1HYĜƐȻȊ>1I1ĢɊȊ<8ġϜ<1HVlѦƆ>2KXWqɫƆ<4k̥ʂ=6OAkʶƆ>17QkROCKET>2JCTkǸƆ>DFlѹƆ<OkǠƞ>2FsʪƆ=8KJğ ƾȕȅǡƆ>VĠɊȊ<GĠƀΐʁ>2J07ĥƗƒƋ=8L9ĥǝʁ>2J01ĥȂў˖=8M8Į̼>ĥǙʁ>2IYTĥϪʁ<4ĥ́ǝʁ>FĚ˨Ɔ=8KTĚ̥ʂ>PĚ͘Ɔ<1MnѓƆ<G2lˢѬƆ<1GQnʪǦƀǠΏ>219kƨƆ<1ZAv ΊǠƞ>2KZ1k͘Ɔ=6NJbRACHMA Ə<74dFTING ϮƔƆ>1D7dGON>2IY5g Ǒ>14cESS>10c׬SLOW Ə=7OAcOMEDARY CAMEL>2J4FdOLING Ǒ>ZDdP ȕBLOOD>9FeLET<15DcUM ƀDRUMSTICKS>WPbUCK>1WcMPLING<13cPLOYAN AFFIX ATTACHED E ơ<C11yI ơ>yLEFT-TO-RIGHT ͥ<4yͥ<1yȓ>2ĚNGENT<1ğ ơ>3pʎǀ>3uƵ>4uɑ<1uǘ<2uɮ>3vͼǘ<3uTIGHT ǀ<2uɏ>6Ĝ ͥ<Juѡ>HpƜƒͥ<Nqҭǀ>Vu،>8tƵ<4tɑ<1tǘ<2tɮ>3uͼǘ<3tTIGHT ǀ<2tɏ>6ě ͥ<11tѡ>ZpMID ƒͥ<12tƊͥ>2pƐƒͥ<2jƗƕ>17jƃA<2LrOU>3qB<1QqD>r S>4rH>5qE>1FrE>3rU>6qF<26r N>9qG<4r R S>1FqH<1QrL>LqI>1BrE>1qJ<19r M>3t S>DsN>2t S>sS<8t ƀɑ>5sƀɑ<CĚS Ϧƍƅ>qK<Vr M>9sR S>19rK<15qL<ErH>GrͼI>1JvU>5qM<1Or N>3t S>DsS<4sƀɑ<6qN<7r M>3t S>DsS<4sƀɑ<6rASAL A>1TwI<1wO<1wU<1qO<TrA<1rOH>LrU>1rW<1qP<2Gr N>9rERNIN AM>2HyN<1qR<2Ir S>4rH>7rOMANIAN I>1GzU>8qS<1Mr J>3t S>DsK>Gt R>sM<4sN<1sP<7t R>sS<BsT>7t R>sƀɑ<EĚ Ƈ>rHORT I>YrLOAN AN>UwDH<2EwEE>1NxH<2xN>QwJ<2AwON>2BxW<13wU>LqT<2Dr R S>1FsS<1rH<11qU>1Rr N>2rH>2rI<DqV<1TrȳM>2OqW<1Er R>1rA>XrEI>2rH<12rI>10rO<1sW>2qX<2NrW>29qYE<3jǯCH",
  "INOOK ǻǽ>26jƙO ƀȺ<3jTHICK ƃSELECTOR>bVD>B36aE-MAIL ƌ>12bAGLE>WTcR<11Fd ȕMAIZE<79hRICE>eƀHEARING AID>1A4dTH=7K1f GLOBE AMERICAS>2J0SnSIA-AUSTRALIA>mEUROPE-AFRICA<2hROUND=72YcST SYRIAC Ⱥ>IEbDITORIAL CORONIS>1I4bGG>2IQ3cYPTIAN ֏A001<13RUx2>x3>x4>x5>yA>x6>yA>yB>x7>x8>x9>w10>x1>x2>x3>x4>yA>x5>x6>x7>yA>x8>x9>w20>x1>x2>x3>x4>x5>x6>x7>x8>x9>w30>x1>x2>yA>x3>x4>x5>x6>x7>x8>x9>w40>yA>x1>x2>yA>x3>yA>x4>x5>yA>x6>x7>x8>x9>w50>x1>x2>x3>x4>x5>x6>x7>x8>x9>w60>x1>x2>x3>x4>x5>x6>x7>x8>x9>w70>vA001>QLy2>y3>y4>y5>y6>y7>zA>zB>y8>y9>x10>y1>y2>y3>y4>y5>y6>y7>y8>y9>x20>y1>y2>y3>y4>y5>y6>y7>y8>y9>x30>y1>y2>uB001<RIx2>x3>x4>x5>yA>x6>x7>x8>x9>vEGIN SEGMENT>RHuC001<RHx2>yA>yB>yC>x3>x4>x5>x6>x7>x8>x9>w10>yA>x1>x2>x3>x4>x5>x6>x7>x8>x9>w20>x1>x2>x3>x4>uD001>x2>x3>x4>x5>x6>x7>x8>yA>x9>w10>x1>x2>x3>x4>x5>x6>x7>x8>x9>w20>x1>x2>x3>x4>x5>x6>x7>yA>x8>x9>w30>x1>yA>x2>x3>x4>yA>x5>x6>x7>x8>x9>w40>x1>x2>x3>x4>x5>x6>yA>x7>x8>yA>x9>w50>yA>yB>yC>yD>yE>yF>yG>yH>yI>x1>x2>yA>x3>x4>yA>x5>x6>x7>x8>x9>w60>x1>x2>x3>x4>x5>x6>x7>yA>yB>yC>yD>yE>yF>yG>yH>uE001>x2>x3>x4>x5>x6>x7>x8>yA>x9>yA>w10>x1>x2>x3>x4>x5>x6>yA>x7>yA>x8>x9>w20>yA>x1>x2>x3>x4>x5>x6>x7>x8>yA>x9>w30>x1>x2>x3>x4>yA>x6>x7>x8>vѴSEGMENT>MYuF001<MYyA>x2>x3>x4>x5>x6>x7>x8>x9>w10>x1>x2>x3>yA>x4>x5>x6>x7>x8>x9>w20>x1>yA>x2>x3>x4>x5>x6>x7>x8>x9>w30>x1>yA>x2>x3>x4>x5>x6>x7>yA>x8>yA>x9>w40>x1>x2>x3>x4>x5>yA>x6>yA>x7>yA>x8>x9>w50>x1>yA>yB>yC>x2>x3>uG001>x2>x3>x4>x5>x6>yA>x7>yA>yB>x8>x9>w10>x1>yA>x2>x3>x4>x5>x6>x7>x8>x9>w20>yA>x1>x2>x3>x4>x5>x6>yA>x7>x8>x9>w30>x1>x2>x3>x4>x5>x",
  "6>yA>x7>yA>x8>x9>w40>x1>x2>x3>yA>x4>x5>yA>x6>x7>x8>x9>w50>x1>x2>x3>x4>uH001>x2>x3>x4>x5>x6>yA>x7>x8>vˬΟ>IXuI001<IXx2>x3>x4>x5>yA>x6>x7>x8>x9>yA>w10>yA>x1>yA>x2>x3>x4>x5>vNSERT ҧʜEND>IIĥSTART<2Ğ̾END>ĢSTART<2uK001<IFx2>x3>x4>x5>x6>x7>x8>uL001>x2>yA>x3>x4>x5>x6>yA>x7>x8>uM001>yA>yB>x2>x3>yA>x4>x5>x6>x7>x8>x9>w10>yA>x1>x2>yA>yB>yC>yD>yE>yF>yG>yH>x3>x4>x5>yA>x6>yA>x7>yA>x8>x9>w20>x1>x2>yA>x3>x4>yA>x5>x6>x7>x8>yA>x9>w30>x1>yA>x2>x3>yA>yB>x4>x5>x6>x7>x8>x9>w40>yA>x1>x2>x3>x4>uN001>x2>x3>x4>x5>x6>x7>x8>x9>w10>x1>x2>x3>x4>x5>x6>x7>x8>yA>yB>x9>w20>x1>x2>x3>x4>x5>yA>x6>x7>x8>x9>w30>x1>x2>x3>yA>x4>yA>x5>yA>x6>x7>yA>x8>x9>w40>x1>x2>vL001>y2>y3>y4>y5>zA>y6>y7>y8>y9>x10>y1>y2>y3>y4>y5>y6>y7>zA>y8>y9>x20>vU001>y2>y3>y4>y5>y6>y7>y8>y9>x10>zA>y1>zA>y2>y3>y4>y5>y6>y7>y8>zA>y9>x20>y1>y2>zA>uO001>yA>x2>x3>x4>x5>yA>x6>yA>yB>yC>yD>yE>yF>x7>x8>x9>w10>yA>yB>yC>x1>x2>x3>x4>x5>x6>x7>x8>x9>yA>w20>yA>x1>x2>x3>x4>yA>x5>yA>x6>x7>x8>x9>yA>w30>yA>x1>x2>x3>yA>x4>x5>x6>yA>yB>yC>yD>x7>x8>x9>w40>x1>x2>x3>x4>x5>x6>x7>x8>x9>w50>yA>yB>x1>vVERLAY ̻>BFuP001<BFyA>x2>x3>yA>x4>x5>x6>x7>x8>x9>w10>x1>uQ001>x2>x3>x4>x5>x6>x7>uR001>x2>yA>x3>yA>yB>x4>x5>x6>x7>x8>x9>w10>yA>x1>x2>x3>x4>x5>x6>yA>x7>x8>x9>w20>x1>x2>x3>x4>x5>x6>x7>x8>x9>uS001>x2>yA>x3>x4>x5>x6>yA>x7>x8>x9>w10>x1>x2>x3>x4>yA>yB>x5>x6>x7>yA>x8>x9>w20>x1>x2>x3>x4>x5>x6>yA>yB>x7>x8>x9>w30>x1>x2>x3>x4>x5>yA>x6>x7>x8>x9>w40>x1>x2>x3>x4>x5>x6>uT001>x2>x3>yA>x4>x5>x6>x7>yA>x8>yA>x9>yA>w10>x1>yA>x2>x3>x4>x5>x6>yA>x7>x8>x9>w20>x1>x2>x3>x4>x5>x6>x7>x8>x9>w30>x1>x2>yA>x3>yA>",
  "x4>x5>x6>uU001>x2>x3>x4>x5>x6>yA>yB>x7>x8>x9>w10>x1>x2>x3>x4>x5>x6>x7>x8>x9>w20>x1>x2>x3>yA>x4>x5>x6>x7>x8>x9>yA>w30>x1>x2>yA>x3>x4>x5>x6>x7>x8>x9>w40>x1>x2>uV001>yA>yB>yC>yD>yE>yF>yG>yH>yI>x2>yA>x3>x4>x5>x6>x7>yA>yB>x8>x9>w10>x1>yA>yB>yC>x2>yA>yB>x3>x4>x5>x6>x7>x8>x9>w20>yA>yB>yC>yD>yE>yF>yG>yH>yI>yJ>yK>yL>x1>x2>x3>yA>x4>x5>x6>x7>x8>yA>x9>yA>w30>yA>x1>yA>x2>x3>yA>x4>x5>x6>x7>yA>x8>x9>w40>yA>vERTICAL Ο>3LuW001<3Lx2>x3>yA>x4>x5>x6>x7>x8>x9>yA>w10>yA>x1>x2>x3>x4>yA>x5>x6>x7>yA>x8>yA>x9>w20>x1>x2>x3>x4>yA>x5>uX001>x2>x3>x4>yA>yB>x5>x6>yA>x7>x8>yA>uY001>yA>x2>x3>x4>x5>x6>x7>x8>uZ001>x2>yA>yB>yC>yD>x3>yA>yB>x4>yA>x5>yA>x6>x7>x8>x9>w10>x1>x2>x3>x4>x5>yA>yB>yC>yD>yE>yF>yG>yH>yI>x6>yA>yB>yC>yD>yE>yF>yG>yH>bɶPETALLED ҜƯFLORETTE=7R5hOINTED Ưȩ<Doʥȩ>oդƯȩ>1gȨǂ<4gˡ؆ǂ>MfH ͻ<68bJECT ƌ<IJbLBASAN ƃA>18HCpBE>pCE>qHE>pDE>qHE>1pE>1qI<1pFE>1pGE>qHAMMA>RrE<1qJE<QpHE>pI>pJE>pKE>qHE>NpLE<NqLE>pME>pNA>1qDE<FqE>DqJE>1pO>pPE>pQE>pRE>qRE>pSE>qHE>pTE>qHE>pU>pVE>pXE>pY>pZE>qHE>cECTRIC Ɔ=6WXjȡBULB>2JZ3jPLUG>2YjTORCH>PiAL ɓ=73BdMENT OF<DBk Рɒ>1QOtΉ<LJlƀƽƅ<YLqȂƒƋ<3qɺ>3qȉƒSTROKES>2qǩ<1qƊ̄ҧͷȕƒƋ<5dPHANT>2JVOdVATOR>JIcF>LHcYMAIC ƃˎ<1A7Xqֲ>Ep̱<Ep̉>1p̩<1pHE>1rTH>2p͇>2pʅ>pи>p̢>pPE>2pӱ>1pϰ>p˛<2rΣ<3qζ>5p҅>qԽ<Dpͪ<3pͫ>3p̜<3jɅZAYIN-YODH>FbM ̊=6C4d؈<Jdʸ>1cOJI COMPONENT BALD>2LKEqʭՄ<1qϯՄ<1qƨՄ>2g˘FITZPATRICK TYPE-1-2<14OĠ3>Ġ4>Ġ5>Ġ6>cPHASIS ƌ=70JdTY DOCUMENT>2K3RgNEST>Z1hOTE<Z8k PAD>1nGE<1gPAGE>5kS>gSET=6PXj ƀƜǦƅ>1IMpɺ<3pƐǦƅ>1pƖǟƅ<1bN ̊<1WFd؈<Jdʸ>1cD ȕGUARDED Ԥ=47hɮ=Ahȋ>EhPROOF>6PGkTECTED Ԥ=47hSELECTED Ԥ<GhӼ=3i֦>t ǥ>IeƀƾǦƅ>2",
  "QYQcQ=5dUIRY<cTER ƌ>70GcVELOPE>OYi ƀǔǦƅ>2J8FoLIGHTNING>4AbOL=AcM>EcT<LbPA>42bQUAL ƍPARALLEL TO>6RHgɊBY DEFINITION<3Cjʵǒ>3Jmǿ<1mPRECEDES>1mSUCCEEDS>fS ʍ<3UhƏ=1Pl ǈƾƆ>8HUsƟƏ<5RsƔƆ<74sʺǄ>75nѴɼТ<40Ġ ƀʺƅ>mƀBUMPY ƅ>5LrƽƇ<20rINFINITY Ƈ>B6rȉǇǈƍȉǇƇ<AQhƀǂ<9dIANGULAR TO<1LGeVALENT TO<DlƀɗǇƅ>1M2bRASE Ɋ̽Ƿ<1FXnƩ<5cIS ʰǛ>1QHkΈ>cROR-BARRED ƯƵ<E6tǺ<2tǋ<2nƨƵ>2tǺ<2tǋ<2bSA=3RcC=RdAPE<cTIMATED ƌ>6J6iS>8AbTB=NcHIOPIC ʍ>3T9lЗАƍƷɔƕ<8Ğƕ>1tƷɔƕ<1mMA>4jƥƬ>Cpǉ<3qȐ<1pǊ>4pǛ<8pƪ>5qIX<1pƤ<3qWO<1jǻǽ<8jƹה>Mqɲ<3rΦ<1qƚ>5q׺<1qը<2rIXTY<1qʚ<5t Ǝ>9r˾<8rȽ<1jёǰ<BkREFACE ʍ<2jǗƕ>jɆƕ<7lMICOLON>3kԍBA<78uA>2tBA>U6CvA>2uE>1vE<1uI<2uO>3uU<5tE<U6CuE<1tI<2tO>3uA>5CUtU<5D0tWA>5uE>7ZvE<1uI<1sCA<7HuA>2tCA>5D8vA>2uE>1vE<1uHA>BwA>2vE>1wE<1vHA>ORNxA>2wE>1xE<1wI<2wO>3wU<5vI<ORRvO>3vU<5uI<FuO>3uU<5tE<5D8uE<1tHA>4RvA>2uE>1vE<1uI<2uO>3vA>57LuU<57RuWA>5tI<51tO>3uA>5C8tU<5CEtWA>5sDA>34uA>2tDA>4vA>2uE>1vE<1uБ>U1AvE>1wE<1vI<2vO>3vU<5uI<U1BuO>3vA>58UuU<590uWA>5tE<AuE<1tI<2tO>3uA>591tU<597tWA>5tZAA>U1NuE>1vE<1uI<2uO>3uU<5sFA<TZDuA>2tE>1uE<1tI<2tO>3tU<5tWA>5uE>1NvE<1uI<1tYA<1BsGA<2AuA>2tE>1uE<1tGA>BvA>2uE>1vE<1uI<2uO>3uU<5uWA>589wA<584vE>586wE<1vI<1tI<58QtϨA<2YěA>2ĚE>1ěE<1ĚI<2ĚO>3ěA>5B7ĚU<5BDĚWA>5tO>2UuA>tU<6uRAGE BWEE>2KMIěI<1zFWEE>8ěI<1zGWE<1ĜE<1ěI<1zHHWA<GzKWE>EĜE<1ěI<1zMWEE<7ěI<1zPWEE>GěI<1zQWE<BĜE<1ěI<1tWA=3RKvA>2uE>1vE<1uI<2tYA>5ADvA>2uE>1vE<1uI<2uO>3uU<5sHA<5I1uA>2tE>1uE<1tHA>BvA>2uE>1vE<1uI<2uO>3uU<5uWA>5vE>2KSZwE<1vI<1uYA<9wA>2vE>1wE<1vI<2vO>3vU<5tI=3K2tO>3uA>tU<6sJA>72uA>2tE>1uE<1tI<2tO>3uA>58NtU<58TtWA>5sKA<2NuA>2tE>1uE<1tI<2tO>3uA>",
  "tU<6tWA>6vA>2uE>1vE<1uI<2tXA>5vA>2uE>1vE<1uI<2uO>3uU<5uWA>6wA>2vE>1wE<1vI<2tYA>5C5vA>2uE>1vE<1uI<2uO>3uU<5sLA<5HDuA>2tE>1uE<1tI<2tO>3uA>5F5tU<5FBtWA>5sMA>8uA>2tE>1uE<1tI<2tO>3uA>5EQtU<5EWtWA>5uE>9VvE<1uI<1tYA<14sNA<5LuA>2tE>1uE<1tI<2tO>3uA>5BLtU<5BRtWA>5tYA>vA>2uE>1vE<1uI<2uO>3vA>5BEuU<5BKuWA>5sPA>4WuA>2tE>1uE<1tHA<10vA>2vRYNGEAL A<2RĞA>2ĝE>1ĞE<1ĝI<2ĝO>3ĝU<5uE>2RvE<1uI<2uO>3vA>57EuU<57KuWA>5tI>QtO>3uA>56JtU<56PtWA>5uE>1JvE<1uI<1sQA<99uA>2tE>1uE<1tHA>BvA>2uE>1vE<1uI<2uO>3uU<5uWA>6wA>2vE>1wE<1vI<2tI<OtO>3uA>tU<6tWA>6vA>2uE>1vE<1uI<2tYA>5F9vA>2uE>1vE<1uI<2uO>3uU<5sRA<5G9uA>2tE>1uE<1tI<2tO>3uA>5EBtU<5EHtWA>5tYA>88sSA<88uA>2tE>1uBATBEIT BWA>9AĜFWA>3ĜMWA<8ĜPWA>BuE<9KtHA>3vA>2uE>1vE<1uI<2uO>3vA>5DXuU<5E3uWA>5tI<DtO>3uA>5E4tSA>SvA>2uE>1vE<1uI<2uO>3uU<5tU<5F4tWA>5tZA<NvA>2uE>1vE<1uI<2uO>3uU<5uWA>5sTA>20uA>2tE>1uE<1tHA>4RvA>2uE>1vE<1uI<2uO>3vA>57SuU<57YuWA>5tI<51tO>3uA>5CFtSA<572vA>2uE>1vE<1uI<2uO>3uU<5uWA>5tTHAA>TZ7vE>1wE<1vI<2vO>3vU<5tU<U4WtWA>5tZA>5KvA>2uE>1vE<1uI<2uO>3vA>uU<6sVA<61uA>2tE>1uE<1tI<2tO>3tU<5tWA>5sWA>2GuA>2tE>1uE<1tI<2tO>3uA>tU<6sXA<21uA>2tE>1uE<1tI<2tO>3uA>tU<6tWA>6vA>2uE>1vE<1uI<2tYA>5DXvA>2uE>1vE<1uI<2uO>3uU<5sYA<5BDuA>2tE>1uE<1tI<2tO>3uA>tU<6sZA<HuA>2tE>1uE<1tHA>3vA>2uE>1vE<1uI<2uO>3uU<5uWA>5tI<DtO>3uA>59OtU<59UtWA>5tZA>5AOvA>2uE>1vE<1uI<2uO>3uU<5j؜ǴCHIRET<55NuDERET<5z-HIDET>6vIFAT<4uHIDET>2uKENAT<2vURT>3uRIKRIK<7uȖRIKRIK>uYIZET<3jWORDSPACE<1BcX=3bULER CONSTANT>6IRcRO Ə<2Je-CURRENCY Ə<CePEAN CASTLE>2KB3jPOST OFFICE<CbVERGREEN ԁ<4YbXCESS=6RDdLAMATION ƕ=XmǗƕ>6CNcPRES",
  "SIONLESS Ǒ>2KSNcTENDED ɚƥƬ=1DKĜǉ<3ĝȐ<1ĜǊ>4ĜǛ<8Ĝƪ>5ĝIX<1ĜƤ<3ĝWO<1Ĝǚ<2dRATERRESTRIAL ALIEN>2PHOeEMELY ǝɖȨǂ>MUq˩Ⱥ<Dq˯>6rԔȨǂ>BqƨƵ<1Dwǋ>9bYE<NMdGLASSES>HdS<JaͯΙպTEARS>114fMASSAGE<Z7fPALM>WVfSAVOURING DELICIOUS FOOD<M3gCREAMING ̎FEAR>11fTHROWING A KISS<PfƀCOLD SWEAT<5mWBOY HAT>LOkǌ̒>CJkϣҋʊױ<C9kHEAD-BANDAGE<MkLOOK ȕTRIUMPH<KXkMEDICAL MASK>IlONOCLE>PKk՘GOOD GESTURE<P7kOK GESTURE>l׹EYEBROW RAISED>KHlρEYES ƍ̪ƣ̒>C9p̒<XGu ƍCOLD SWEAT>1vVOMITING>L9kPARTY HORN ƍPARTY HAT>1WlEEKING EYE>A7lLEADING ͸<A1kROLLING ͸<MUkSTUCK-OUT ӿ<15Ě ƍү͸>1ğWINKING EYE<1kTEARS ȕJOY<QlHERMOMETER>LRkUNEVEN EYES ƍ҉̒>2PjӪ̒<N2dSIMILE Ə=6KBdTORY>2K6PcIRY>164cLAFEL<KdLEN ̐<1ACeɜǌǓɩɱƆ=84VĚˮː<3r̎ƨǟ̎Ưǋ<GEcMILY>2J63cRSI ƌ=7JFcTHER CHRISTMAS>2J4PcX ICON>FLeՔ<5ZbEARFUL Ǒ>93dTHER>WDcѳƏ=7K0dININE ORDINAL ˕=4QcNCER>2RNZcRRIS WHEEL<13TeY=7P0bF=CbIELD HOCKEY ؒƍη>2QPWcGURE ̊=6C2hʸ<BcLE CABINET>2KSCfӇ<77fǰ=SdM FRAMES>2QO1fPROJECTOR>9QcNITE PART ɝ=8B1cRE>2IONe ENGINE>A4gXTINGUISHER>NWeCRACKER<7eWORK SPARKLER<19DiS<1dST ӯӞ>14WgȹMOON=7JXs ƌ>2J11tƀǑ>7gSTRONG ѯ=6EGcSH>2KDYe CAKE ƀSWIRL DESIGN<56eEYE=7GPeɜPOLE ƍFISH>2J89dӻ̪Ə>4McԆƽƕ=94Djǜ<2QCbLAG ̎HOLE>1AXdMINGO>2K6TdT SHOE<16eBREAD>9FeNESS=739cEUR-DE-LIS>JAdXED BICEPS>2J9PcOPPY ׏>JdRAL ˽=7S6dWER<5Qg PLAYING CARDS>2J2Ziбƕ=6DXcUSHED Ǒ>2KT9cY>VWdɜDISC<9Th́<QYhSAUCER>AAbOG<R1dGY<16cLDER>JIcNDUE>104cOT<7ZePRINTS<11VcR ALL=6PSdCES>4OdK ƍKNIFE>2JT6o ƀPLATE>8eӀ֠=93Ke֓<MSdM י=CdTUNE COOKIE>2RTFcUNTAIN=7OYdR Ҩǂ>1CfCLUB-SPOKED ǂ>1gѐARROWS CIRCLING ANTICLOCKWISE>VIfƽƕ<27Tjǜ<3fLEAF CLOVER>2K87fǲƯȩ>W5",
  "fˡǂ=7QAe-PER-EM ʸ<1ELeTH ROOT>EUcX Ǒ>2L4DbRACTION ׼Ǜ=6LBj̭<7VdME ƀAN X>2KQHl՟<2lTILES>cEEZING Ǒ>QGdNCH FRANC Ə=6G3jIES>2K6ZcIED SHRIMP>4cOG Ǒ>5VdNT-FACING BABY CHICK<JgTILTED ˝ƨƔƆ=7U4dWN<WAfɜͯƀȠ̒>2K8ZbS=ScI>6DNbUEL PUMP>1AScLL ǥ<ADfόƌ>2J64kƀǑ>7fOUTER JOIN=7VBfǽ=1Aeԋυ>1EC7lϒ>l҃>2kBROKEN Ȋ>61kCENT Ə<4lɀǵ<4Il׿<10mMMA<EoѨAT>JkƥƬ<8qǉ<3rȐ<1qǊ>4qǛ<8qƪ>5rIX<1qƤ<3rWO<1qǚ<2lӨƏ<CkɡƏ>Olˉƕ<Skǻǽ>Ck̵ǵ>1DmЉƏ<Ykϥ<HkʆƢƃA>JğB>ğC>ğD>ğE>ğF>ğG>ğH>ğI>ğJ>ğK>ğL>ğM>ğN>ğO>ğP>ğQ>ğR>ğS>ğT>ğU>ğV>ğW>ğX>ğY>ğZ>qƖƃA>6ĝB>ĝC>ĝD>ĝE>ĝF>ĝG>ĝH>ĝI>ĝJ>ĝK>ĝL>ĝM>ĝN>ĝO>ĝP>ĝQ>ĝR>ĝS>ĝT>ĝU>ĝV>ĝW>ĝX>ĝY>ĝZ>lҎʭƓ>pƲ<2BpɁƓ>1EpƨƲ>ZmЬƏ<1Vlҭɮ>Ykǅ>4JkʇƏ<1lUMBER Ə<67kУƏ>1lӜƏ>5l֞Ə>5XkǗƕ<5Emөƕ<Tkʷˆ>1LlɶʭƓ>WqƲ<2CqɁƓ>1FqƨƲ>Yk˜<1Xl׾<CkǏ>26kƊɮ<2kWON Ə>3TkYEN Ə<1cNCTION APPLICATION=6E9dERAL URN>18VcSE<K6bVS1<2C0d2>d3>d4>1aGAME DIE>2LYAcRLIC>175bEAR=7MHe ƀHANDLES>2CjӪHUB<1cM STONE>2J6OdINI=7KAcNIE>2KCZcOMETRIC PROPORTION=6REjALLY ƫTO>MrʐTO<3dRGIAN ƢƃAEN<3GHzN<19yBAN>yҹ>Ozз>2ĚIN<4zIL>2yDON<PyEN>yGAN<2zHAN>JyHAE>9ĚR>3zE<3zIE>zOE>2yIN<TyJHAN>MzIL<4yKAN<Izз>ByLAS<Byҗ>yNAR>yON>yPAR>zз>5yQAR>2yԛ<7ySAN>zζ>6yկ<HĚR>AyUN>yVIN<EyWE>TyXAN<5yYN>8yZEN<Xzз>8jƃAEN>25rIN<3rN<16qBAN>qҹ>Orз>2sIN<4rIL>2qDON<PqELIFI>10rN<10qFI>XqGAN<10rHAN>JqHAE>9sR>3tD Ə>9rE<DrIE>rOE>2qIN<TqJHAN>MrIL<4qKAN<Irз>BqՐƏ>PsS<11qҗ>qNAR>qON>qPAR>rз>5qQAR>2qԛ<7qSAN>rζ>6qկ<HsR>Ar˸GAN>MqUN<MqVIN<EqWE>TqXAN<5qYN>8qZEN<Xrз>8jMTAVRULI ƢƃAEN>2CDĢIN<3ĢN<16ġBAN>ġҹ>OĢз>2ģIN<4ĢIL>2ġDON<PġELIFI>10ĢN<10ġFI>XġGAN<10ĢHAN>JġHAE>9ģR>3ĤD Ə>9ĢE<DĢIE>ĢOE>2ġIN<TġJHAN>MĢIL<4ġKAN<IĢз>BġՐƏ>PģS<11ġҗ>ġNAR>ġON>",
  "ġPAR>Ģз>5ġQAR>2ġԛ<7ġSAN>Ģζ>6ġկ<HģR>AĢ˸GAN>MġUN<MġVIN<EġWE>TġXAN<5ġYN>8ġZEN<XĢз>8jёǰ<2ASjƖƃAEN>5KHxN<19wBAN>wҹ>Oxз>2yIN<4xIL>2wDON<PwEN>wGAN<2xHAN>JwHAE>9yR>3xE<3xIE>xOE>2wIN<TwJHAN>MxIL<4wKAN<Ixз>BwLAS<Bwҗ>wNAR>wON>wPAR>xз>5wQAR>2wԛ<7wSAN>xζ>6wկ<HyR>AwUN>wVIN<EwWE>TwXAN<5wYN>8wZEN<Xxз>8cRMAN PENNY Ə<2FZcTA ƕ>31EbHOST>2HD3bIMEL ƌ=6K7cRAFFE Ǒ>2LAYdL<10ReS ƌ>GYbLAGOLITIC ƢƃAZU=8OWĚмͬ>13ěUKY<13ĚCAUDATE ׄ>19ěHRIVI<IĚא<HěOBRO<8ěZELO>2Ěӆ>YěRITU<JĚՃ<KĚHERU>KĚI<DěѵIZHE<1ěϭмͬ>UĢƖͬ<2ěZHE<UĝITSA>XĚKAKO<UĚLATINATE ϩ>WěJUDIJE<WĚϩ>ĚNASHI>ĚONU>ěTU>7ĚPE>ěOKOJI<8ĚRITSI>Ěѿ>AĜTA<3ĞPIC>GěLOVO<Oěȸͬ>Fģ ƀȓ>ěPIDERY HA<3Ě֯A>AěSI<HěVRIDO<7ĚUKU>ĚVEDE<KĚYATI>UěERI<1ĝU<1ĜSTU<QěO>WěU<3Ěت<Rěף<2lƖƃAZU>15yмͬ>13zUKY<13yCAUDATE ׄ>19zHRIVI<Iyא<HzOBRO<8zZELO>2yӆ>YzRITU<JyՃ<KyHERU>KyI<DzѵIZHE<1zϭмͬ>UĠƖͬ<2zZHE<UěITSA>XyKAKO<UyLATINATE ϩ>WzJUDIJE<Wyϩ>yNASHI>yONU>zTU>7yPE>zOKOJI<8yRITSI>yѿ>AĚTA<3ĜPIC>GzLOVO<Ozȸͬ>Fġ ƀȓ>zPIDERY HA<3y֯A>AzSI<HzVRIDO<7yUKU>yVEDE<KyYATI>UzERI<1ěU<1ĚSTU<QzO>WzU<3yت<Rzף<2dSS ȕMILK>2J38cEICH STARK=89YcOBE ƀMERIDIANS>2IAXdVES>1CJdWING ȩ<1C5bOAL NET>17PdT<111cGGLES>12KcLFER<14HcRILLA>14WcTHIC ƃAHSA<1CNXpIHVUS>3oBAIRKAN<3oDAGS>1oEIS>5oFAIHU>CoGIBA<KoHAGL>4pWAIR>GoIGGWS<1pUJA<HoJER>7oKUSMA<4oLAGUS>oMANNA>oNAUTHS>pINE ƚ>CsTY<9oOTHAL>7oPAIRTHRA<9oQAIRTHRA<BoRAIDA>CoSAUIL>oTEIWS>pHIUTH<CoURUS>6oWINJA>5bRADUATION CAP>1BGTdNTHA AU ɔƕ<18AKiƃA<2AqA>qI>9qU>3pBA>NqHA>pCA<JqHA>pDA>AqDA<5rHA>qHA>4pEE<OpGA>7qHA>pHA>WpI<1EqI>pJA>JqHA>pKA<8qHA>pLA>RqLA>pMA<5pNA<6qGA<FqNA>9qYA<5pOO<BpPA>MqHA>pRA>4pSA>7qHA<2qSA",
  ">pTA<JqHA>qTA<6rHA>pU<NqU>pVA>16qEDIC Ƹ>14vƗƸ>qȳL<2ByL>2CxR<2EyR>2CpYA<1DiOM>WiƙƸ<26oɾ>1Mnǃ<1OoϏ͚ƅ<1nɹ>1NnPLUTA>WnǤ<Gpɟ<22iƷƙAA>1MuI>9uU>3tEE<5tI<8uI>tOO>AtU<AuU>tǪL>VĜL>ěR<WĜR>dPES>188YdԆǵ=2OcЉǈ̀ƫǈǿ>8BVtʱǈ̀˼>5tƔƆ<7UtSIMILAR ǈǿ>7Rěʵ˼<2uՑƫǈʱǈɼ˼>5oѴʇͭ<Ar͓ʇƫTO<2n̞ǿ>SoUT ʇƫTO<1MKyʐTO>3HnʊBY ւ>1J3Ĝ ǈɼ˼>1nƫɊʵǿ<1JInʵͭ>1IIqƫTO<1LTtʐTO>Dqǿ>3qɼƫTO>1L2Ġ ƀƽƅ>3į Ƿ>1Īʖ<4oVER ƫTO<1LLrLAPPING ǿ>1MKnƏ=1Qnƀǟʖ>8CBsɑ<1IBsǗǴƅ>1ICdEK ACROPHONIC ATTIC ɲ>16FBĜ ̧>Cĝ͖<7ĞHOUSAND<3ĥ ̧>EzVE<Jě ƚ>1ģ ̧>DĤ͖<7Ģ̂>2Ĝ͖<7ĝHOUSAND<2Ĥ ͖>7xǮDRACHMA<Cěʽ<1ĜUNDRED ̧>Gģ͖<7ě˭<Běң̧>JĤ͖<7xЭMNAS>9ȩ̌<7ě͖<7ĜHOUSAND ̧>BrCARYSTIAN ɖƚ>PsYRENAIC ȉDRACHMAS<IrDELPHIC ɖMNAS>LrEPIDAUREAN ɖƚ<7ĜΈ<Hğ DRACHMAS>2rHERAEUM ǮPLETHRON<6uMIONIAN ɲ>FĜǛ<EĜʚ>7rMESSENIAN ʚ>rNAXIAN ɖƚ>CrSTRATIAN FIFTY MNAS>3rTHESPIAN ɲ<BĜԆƚ>4ğƎ>3ĚǛ<Pĝ ƚ>GĞƎ>6Ěʚ<Dě˾>Ĝѕƚ>5ěWO<FsROEZENIAN ɲ>9ġ ȎƁ>ĞVE<8Ġ ƚ>DĜʚ<Dğ ȎƁ>h՘TELEIA=P3hROURA Ə>1E67iTABE Ə<1gBETA ƌ=R4gƢȿ͉ͦƌ>19oKAI ƌ<1Boƃҳ<1QĚ ƀʮ>5FBĥ ƍȧ>3Į ƍƺ>3JĪƳ<3Iĵ ƍƺ>3Jīɞ<6Īǳ<3Iį ƍƺ>3JĠǅ>19Ġȧ>1Ġƺ>ġЪ<50ĥ ƍȧ>3Į ƍƺ>3JĪƳ<3Iĵ ƍƺ>3Jīɞ<6Īǳ<3Iį ƍƺ>3JĠʛ=P2Ġǳ>5KJġѺ<2w˅Ѽ=OIvBETA>VvCHI>Kvփ<JvEPSILON>Ĝ ƀʮ>5FNħ ƍȧ>3Ĭǳ<2Ģȧ>4TĢѸ<4Xħ ƍȧ>3Ĭǳ<2Ģʛ=P4Ģǳ>5KVwTA=PJy ƀʮ>5G1ģ ƍȧ>3Ĭ ƍƺ>33ĨƳ<32ĳ ƍƺ>33ĩɞ<6Ĩǳ<32ĭ ƍƺ>33Ğȧ>1BĞƺ>ğЪ<4Kģ ƍȧ>3Ĭ ƍƺ>33ĨƳ<32ĳ ƍƺ>33ĩɞ<6Ĩǳ<32ĭ ƍƺ>33Ğʛ=P5Ğǳ>5KWvΗ=PFv͝<ZvIOTA>14z ƀʮ>5GFĤ ƍȧ>3ĩƳ>1ĩǳ<4ĠВ=Q2ğǅ>5KEğȧ>1ğѸ<4JĤ ƍȧ>3ĩƳ>1ĩǳ<4ğʛ=P6ğǳ>5LBĠѺ<2vKAPPA=PMv֘>vMU>vNU>v͍>BĚ ƀʮ>5HBĥ ƍȧ>3Į ƍƺ>1RĪƳ<1Qĵ ƍƺ>1Rīɞ<6Īǳ<1Qį ƍƺ>1RĠȧ>27Ġƺ>ġЪ<44ĥ ƍȧ>3Į ƍƺ>1RĪƳ<1Qĵ ƍƺ>1Rīɞ<6Īǳ<1Qį ƍƺ>1RĠʛ=PBĠǳ>5M2x̫=PRĜ ƀʮ>5GPħ ƍȧ>3Ĭǳ<2Ģȧ>4TĢѸ<4Xħ ƍȧ>3Ĭǳ<2Ģʛ=P8",
  "Ģǳ>5M3v֟Ը=OMwHI>1BwI<6wSI>7vRHO<7y ƀʮ>5L6vSAN=SAwHO<3wΜ<2CvTAU>w͝<CvUPSILON>CĜ ƀʮ>5GZħ ƍȧ>3ĬƳ>1Ĭǳ<4ģВ=Q3Ģǅ>5KTĢȧ>1Ģʛ=PAĢǳ>5LNģѺ<2vXI=PQvYOT<VvZETA>MpUNATE ͦƌ>2QoȀȿ͉ͦƌ>5x͉ͦƌ<2oϵƌ<9gʮ>5JDl ƍȧ<WqƳ>qǳ<2hIALYTIKA ƍȧ>GuƳ<19uǳ>17qʛ=P1hRACHMA Ə>1E5XgɖӥƏ>4h͎ӥƏ<1gGRAMMA Ə>8gINDICTION Ə>4iSTRUMENTAL ҚSYMBOL-1>1573Ĥ1>5Ĥ2>Ĥ3>Ĥ4>Ĥ7>Ĥ8>Ĥ9>ģ2<BĤ3>BĤ4>Ĥ5>Ĥ6>Ĥ7>Ĥ9>ģ30>Ĥ2>Ĥ6>Ĥ7>Ĥ8>Ĥ9>ģ4<MĤ0>MĤ2>Ĥ3>Ĥ5>Ĥ7>Ĥ8>Ĥ9>ģ5<SĤ0>SĤ1>Ĥ2>Ĥ3>Ĥ4>ģ7<Wģ8>gKAI ƌ=RBiPPA ƌ>OhORONIS>5HOhYATHOS BASE Ə>18LGgƃҵKOPPA=RCnԸ>3nKOPPA>1nѼ>1oȸƢΗ>4ZPě֘>ě͍>S3HěPI<S3HĜSI>1ěRHO<1oTIGMA=REnYOT>OhITRA Ə>1E33hϐ̔Ə=OLhUNATE ˓ƌ>3Jnͦƌ<3gMETRETES Ə>1E32hUSICAL LEIMMA>158Jg̔Ə=OKgOBOL Ə>1E6Fh׹ƻƏ<7t ȎƁ>kȹƏ>KhUNKIA Ə<7hXIA=6BHgƳ<1Phӏƌ=R9hI ƌ>hɞ>5IFhЪ>l ƍȧ>EqƳ>qǳ<2gǗƕ=OUgȀ͉˓ƌ>3BhHO ƌ<5kƀȪƌ>AgSINUSOID Ə>1E33hȸȿ͉ͦƌ=OSmƃҳ>1Gy ƀʮ>5E7ģ ƍȧ>3Ĭ ƍƝ>3JĨƳ<3Iĳ ƍƝ>3JĨǳ<3Oĭ ƍƝ>3JĨƝ<2Ğǅ>1BĞȧ<1SĢ ƍƝ>1UĞƳ>1ĩ ƍƝ>ğЪ<53ģ ƍȧ>3Ĭ ƍƝ>3JĨƳ<3Iĳ ƍƝ>3JĨǳ<3Oĭ ƍƝ>3JĨƝ<2Ğʛ=Q4Ğǳ>5HFģ ƍƝ>1TğѺ<2ĞƝ>2u˅KOPPA=RDěѼ<2UtBETA>1QtCHI>Ktփ<Juק>14tEPSILON<14Ě ƀʮ>5EJĥ ƍȧ>3Īǳ<2Ġȧ>2NĠѸ<2Rĥ ƍȧ>3Īǳ<2Ġʛ=Q5Ġǳ>5HGuTA=QFw ƀʮ>5EXġ ƍȧ>3Ī ƍƝ>33ĦƳ<32ı ƍƝ>33Ħǳ<38ī ƍƝ>33ĦƝ<2Ĝȧ<SĠ ƍƝ>26ĜƳ>1ħ ƍƝ>ĝЪ<4Nġ ƍȧ>3Ī ƍƝ>33ĦƳ<32ı ƍƝ>33Ħǳ<38ī ƍƝ>33ĦƝ<2Ĝʛ=Q6Ĝǳ>5HHġ ƍƝ>25ĜƝ>tƄҀ=QQtΗ<Ft͝<1UtIOTA>1Zx ƀʮ>5FBĢ ƍȧ>3ħƳ>1ħǳ<4ĞВ=QYĦ ƍȧ>5JCīƳ>3īʛ=PCīǳ>5KXĝǅ<1ĝȧ<2IĝƳ>2MĞЪ<4MĢ ƍȧ>3ħƳ>1ħǳ<4ĝʛ=Q7ĝǳ>5HIĞѺ>2HtKAPPA=QIuOPPA>10t֘<10tMU>tNU>t͍>By ƀʮ>5G7ģ ƍȧ>3Ĭ ƍƝ>1RĨƳ<1Qĳ ƍƝ>1RĨǳ<1Wĭ ƍƝ>1RĨƝ<2Ğȧ<10Ģ ƍƝ>3AĞƳ>1ĩ ƍƝ>ğЪ<47ģ ƍȧ>3Ĭ ƍƝ>1RĨƳ<1Qĳ ƍƝ>1RĨǳ<1Wĭ ƍƝ>1RĨƝ<2Ğʛ=R2Ğǳ>5GTģ ƍƝ>39ĞƝ>v̫=QNĚ ƀʮ>5FLĥ ƍȧ>3Īǳ<2Ġȧ>1HĠѸ<1Lĥ ƍȧ>3Īǳ<2Ġʛ=R0Ġǳ>5GRt֟",
  "Ը=ONuHI>26uI<6uSI>7tRHO<7w ƀʮ>5K3ĜѸ<1tѼ=RLvN>PuHO<3uΜ<1HuTIGMA>NtTAU<Nu͝<CtUPSILON>CĚ ƀʮ>5FVĥ ƍȧ>3ĪƳ>1Īǳ<4ġВ=QZĩ ƍȧ>5JRĮƳ>3Įʛ=Q8Įǳ>5KHĠǅ<1Ġȧ<2UĠƳ>2YġЪ<46ĥ ƍȧ>3ĪƳ>1Īǳ<4Ġʛ=R1Ġǳ>5GSġѺ>2TtXI=QMtZETA<8mȀȿ͉ͦƌ<1Lv͉ͦƌ<2hϙƖƃBETA>54AĝCHI>3ĝΗ<3ĝPHI>1ĝRHO<1h̿TAU RHO>192VgTALENT Ə<12hHETA ƌ=R5iѕӥƏ>1E3WmʈƏ<6hONOS=P0hRYBLION BASE Ə>1E6ChˢӥƏ<CkTHIRDS Ə<6gUPSILON ƀ̰ƍȞƌ=R7tDIAERESIS ƍȞƌ>tȞƌ<2gǳ>5JWhOCAL ҚSYMBOL-1>2DQOĝ0>8ĝ1>ĝ2>ĝ3>ĝ4>ĝ5>ĝ6>ĝ7>ĝ8>ĝ9>Ĝ2<Hĝ0>Hĝ1>ĝ2>ĝ3>ĝ4>Ĝ3<LĜ4>Ĝ5>ĝ0>Jĝ1>ĝ2>ĝ3>ĝ4>Ĝ6<NĜ7>Ĝ8>Ĝ9>gXESTES Ə<156RgYEAR Ə<ChPOGEGRAMMENI=OQgֳƏ>1E6NeN APPLE>1BR8gԩ>AVg˽<1PgSALAD>XOcIMACING Ǒ<MJdNNING Ԯͯƀ͔͸>BjǑ<1Kn ƀǮȷƍǮƖEYE>MHt͔͸<MHuTAR ͸>MFcOUP ƕ=8NMgǰ=TdWING ˽>2QUXbS=TbUARANI Ə>6FOeDSMAN>2KENcIDE DOG>10Rdؗ<16EcJARATI ǍƏ=25SjƥƬ<2pǉ<3qȐ<1pǊ>4pǛ<8pƪ>5qIX<1pƤ<3qWO<1pǚ<2jƃA<2PrA>rI>9rU>3qBA>NrHA>qCA<JrHA>qDA>ArDA<5sHA>rHA>4qE<OqGA>7rHA>qHA>WqI<1ErI>qJA>JrHA>qKA<8rHA>qLA>RrLA>qMA<5qNA<6rGA<FrNA>9rYA<5qO<BqPA>MrHA>qRA>4qSA>7rHA<2rSA>qTA<JrHA>rTA<6sHA>qU<NrU>qVA>16rȳL<15zL>2CyR<2EzR>2CqYA<1DqZHA>21jOM<15jϲƏ>WjƙƸ<33pɾ>1Moǃ<1OpIRCLE ׻ƅ>3GoMADDAH<2oɹ<1SoSHADDA>1QpUKUN<1oTHREE-DOT ׻ƅ>2pب׻ƅ>1oǤ<1Eqɟ<22jƷϟE>9wO>3pƙAA>18vI>9vU>3uϟE<7ěO>3uE<2uI<8vI>uO>AuU<AvU>uǪL>VĝL>ĜR<WĝR>cNJALA GONDI ƥƬ>1IARuǉ<3vȐ<1uǊ>4uǛ<8uƪ>5vIX<1uƤ<3vWO<1uǚ<2oƃA<1SwA>wI>6wU>2vBA>2wHA>vCA>BwHA>vDA<4wDA>9xHA>wHA<AvEE<IvGA>EwHA>vHA>FvI<11wI>vJA>SwHA>vKA<GwHA>vLA>2wLA>9vMA<FvNA>9wGA>9vOO<QvPA>QwHA>vRA>1vSA>vTA<MwHA>wTA>8xHA>vU<QwU>vVA>7vYA<1oOM>17oƙƸ<3t͗>oǤ>pΨƙAA<DĚI>6ĚU>2zEE<4zI<5ĚI>zOO>6zU<6ĚU>cRMUKHI ǍƏ=22EkDDAK<5jƥƬ<3pǉ<3qȐ<1pǊ>4pǛ<",
  "8pƪ>5qIX<1pƤ<3qWO<1pǚ<2jEK ONKAR>DjIRI<2jƃA<31rA>rI>9rU>3qBA>NrHA>qCA<JrHA>qDA>ArDA<5sHA>rHA>4qEE<OqFA>26qGA<1ZrHA>sHA>1TqHA<XqI<1ErI>qJA>JrHA>qKA<8rHA>sHA>1UqLA<13rLA>qMA<5qNA<6rGA<FrNA>9rYA<5qOO<BqPA>MrHA>qRA>4rRA>17qSA<10rHA<2qTA<IrHA>rTA<6sHA>qU<NrU>qVA>16qYA<6qZA>17jƙADAK BINDI<2IoBINDI>oɹ>1LoUDAAT>KoǤ<4qɟ<22oYAKASH>35jTIPPI<5jURA>2jƷƙAA<1HvI>9vU>3uEE<5uI<8vI>uOO>AuU<AvU>aHADES>6N2cIR ʸ<2C7eCUT>2KJGcLFWIDTH Ưǋ<1CBEkǔƆ<1kFORMS ȡɏ<4kՇ̴<20rƃA>XzE>yϡ<9z͆<2yE>EzO<1zU>Jyɿ<SyI>TzEUNG<11y̡>3z̏<QĞϽ>1yʲ>Dyʴ<Dĝ͙>Ğɿ>yO>11zE>2yʟ<Iz̶<BĝϽ>1yʀ<Bĝˊ>6Ğɸ<6Ğʲ>Ğʟ>3ğ̶<3Ğɉ>Ğȫ>yɉ>6z̦>3ĝɸ<Nĝ˄>Gĝɉ>2ĝʹ<Eyȫ>Jzˁ<LyU>17yWA<6ĚE>zE>6ĚO<1zI>1yYA<IĚE>zE>5ĚO<1zI>GzO<9zU>4kͅɂ<37wǻǽ<3kғƃA>FĚE>2ĚHA>LěE>2ěI<2ěO>2ěU<2ĚI<QĚKA>3ěE>2ěI<2ěO>2ěU<2ĚMA>MěE>2ěI<2ěO>2ěU<2ĚN>BěA<OěE>2ěI<2ěO>2ěU<2ĚO<IĚRA>XěE>2ěI<2ěO>2ěU<2ĚSA<UěE>2ěI<2ěȸA<LĠE>2ĠI<2ĠO>2ĠTU>3ĠU<6ĠYA>2ġO>1ġU<1ěO>HěU<2ĚTA>2ěE>2ěI<2ěO>2ěU<2ĚU<FĚWA>14ěO<1IĚYA>19ěO>1ěU<1tƑɑ<1Ctϳʘƕ>1Lt˹ʘƕ<1sִ؅ʘƕ<1AkƜɰƓ<EoȢƆ>3QkƐɰƓ<3QpȢƆ>3RkȅƆ<1kƨƵ>3cMBURGER>1C2TdMER>CZg ƍPICK=7MAlSICKLE<2TlWRENCH>2JSIdSA>QZeTER Ǒ<19VcѴƀɘƍƑɳԵ>YSqϣƍǶԵ>CXeBAG<1ASgLL>YPeSHAKE<XdGUL CHOSEONG CEONGCHIEUMCHIEUCH=3F9Ĝ͆<5ěɉ<IĜ̦>IĠɉ<IrHIEUCH<1Dxˊ>1Wy̡<1tTUEUMCHIEUCH>1z͆<6yɉ<Iz̦>Iĝɉ<Ir͆<1Dv-IEUNG>1Sq̴>Hqɿ<25vϽ>U3Sqω<U40vʩ>1Px͆<1wɿ>U26wɸ<U2Ewʲ>1wʞ>2xϤ>4x̶<7wʀ>U29wɉ<U29wȫ>4xˁ<8qμ<11yʟ>1Lz̶<18yʀ<Gyћ>Grц<Tȑ<Fw-TIKEUT>2Hqʲ<2Cv;>U3Sw˄<U37wɉ>U38wʹ<1qʴ<U3Yv͙>2Hwɿ>wɸ<22w˄>2wɉ>1Wwʹ<1Yqʞ>16rϤ<1Bxˊ>U3Sy˄<U1Wr̶<27vʩ>Wx͆<1wɿ>U30w̡<1x̏<U39wʴ>wʟ>Awɉ<9Ě͙>4ěɸ<4ě˄>1ěȫ>U31Ĝˁ<U33xSANGSIOS>1wȫ>3xˁ<9qʀ<Rv͙>U3Rwɿ<U37wν>U34xц>2x̏<",
  "Awʲ>3wʴ<U34w˄>U34wɉ>2xљ<7ě˄>4ěʹ<3wʹ<1qɉ<U3Huʩ>19w͆<1vɿ>4vω<6v̡>2w̏<Bvʲ>3vʴ<3vʟ>Bw̶<8Ě;>vʀ<3vSSANGSIOS>3vȫ>4wˁ<Ar̦<YĚˊ>U3Uvɿ<U1Svω<Hvɸ<1Yvʴ>Iv˄<Cvʀ>Gvɉ<FzҲ>U3Uvȫ>3wˁ<U45v̛>U47qȫ<U3Wrˁ<Dw͙>U3Jxɸ<U30xʲ>U2Wx˄>xʀ<U0Zxɉ>U0Zq̛<U15sӸ<DhƗƽȄƕ>63Mh̴>8KhJONGSEONG ϡ<692s͆<1wҲ>135Lxћ>rɿ=3IAw-MIEUM>1Gxʴ<2x˄>2xʀ<2rω<1Mw-KHIEUKH>1Ey̏<3xSSANGKIYEOK>rμ<Bzʟ>HĚ̶<Ezʀ>133Qsц=3I7s̏<Nxʩ>2Byɿ>1y̡<1yʴ<3y˄>yʀ<1Kyɉ<PĜ;>Prʲ<Dwʩ>14y͆>1341xɿ=3J5xɸ<7xʴ>1343xʞ=3J3y̶<3ĜϽ>1344xʀ=3IZxɉ>1ySANGNIEUN>1341Ĝɉ=3J2rʴ<1Fwʩ>134Wy͆=3HOxɿ>xɸ>Nxʞ>2xʀ>1342xɉ=3IFxȫ>1yˁ<3rʞ>10y-KAPYEOUNPIEUP>1348z˄<1sϤ=3I9yҲ>1Dzɉ>1346zȫ>s̶=3I0wʩ>135Cy͆<1xɿ=3J9xʲ>133Zxʟ=3J8xʀ<1Ĝ-PHIEUPH>1340xɉ=3I1ě-TIKEUT>1359xʹ<4rʀ=3HRwˊ>6xν>Uyц>2y̏<14ĝˊ>1351Ğɉ=3IKxʲ<RĜˊ>1352ĝɸ=3IPĝɉ>xʴ<5xʞ>9yϤ<Yy̶<3Ĝˊ>Xĝʟ>1345ĝɉ=3IRĝʹ>1345xɉ=3HVyљ>134XĜɉ=3IUxȫ<Yyˁ>Pĝˊ>x̛>9Ģˊ>1342zӸ<1rɉ=3I2vʩ>135Hx͆<1wɿ>2wν<7x̏=3JBwʲ>1342wʞ>3x̶=3JEwʀ<1wȫ>1347xˁ=3JCș>134Gwω=3JIwɸ<1Xwʲ>135Iwʴ=3JZw˄>133Awʀ=3IOě-KHIEUKH>1346wɉ=3I3Ě;>135Cěʹ>wʹ<WĜҲ>wYESIEUNG=3JIrȫ<1Asˁ<Ixʩ>1350z͆<1yɸ=3IIy˄>1344yʀ=3IJyɉ>1344Ĝ;>yȫ>2r̛=3JTtӸ<9zˊ>1345Ě̡=3JJě̏<3Ěʲ>1348Ěʞ=3JMĚɉ<1ěљ<4iUNGSEONG A<3Ws-EU>1TtO<19tU>sE<LsRAEA>1Nw-A>1352xE>yO=3HBxI>1xU<1rE<1MsO<1t-EU>MuO<2uU>sU<8t-A>135XuE>1vO<1vU=3H2uO>1351uU=3H1r̴<1HrI>Ks-A>YuRAEA>4tEU<1tI>1353tO=3H6u-I>1352tU=3H7tYA<2v-O>134ZvE>uE>1vO<1uO>2uU>rO=3FTs-E>MuO<1tO>2u-I>135AtU=3GJtYA>YvE>uE<12vO>135AsE=3FWrSSANGARAEA>1HrU<1Gs-A>QuE>tEO-EU>tI-I>1356tU=3GTtYE<1vO>1354rWA=3FUtE>sE>4tO<1sI>1rYA<Et-O>KuU>17uYO<17tE<LsE>3tO<1u-O>LvU>vYA>12sI<1Dt-U>YsO<16t-A>135WvE>uEO>uI=3GOuO<1uYA<3w",
  "E>vEO>sU<Kt-A>RvE>1354uE=3GWvO<1uI>4uO>134ZuU=3GZuYE<1wO<1hƃA>69PpE>pRAEA>1OtE>oϡ<1Wp͆<2oE>BpO<1pU>Doɿ<JoI>KpEUNG<Soμ>15wʟ>Ix̶<Cwћ>pц<1Ap̏<QuϽ>1oʲ>Dt-PANSIOS>1Av̶<2uɉ>oʴ<1Nt͙>uɿ>uʞ>1Duɉ<1uʹ<1oO<FpE>2oʞ>10pϤ<1Ep̶<Bt͙>1Fuɸ<4uɉ<1Ay;>1Bzʹ>uȫ>1vˁ<4oʀ<1Mtˊ>6uɸ<6ĚϽ>1Auʲ<1Auʞ>1CvϤ<19v̶<3zϽ>1Auɉ<1Auȫ>vˁ>17ư>2oɉ<14s͙>1Ktɸ<4tʴ>t˄>1tʹ<1p̦<1Ftɿ>1Ntω<5tɸ<26tʴ>1Et˄<Ytɉ>2tʹ<Eoȫ>Jpˁ<LoU>10oWA<4qE>pE>4qO<1pI>1oYA<EqE>pE>3qO<1rRINHIEUH>1CqӸ<5w-PANSIOS>1xɉ<1pI<WpO<7q-I>19rYA<2tE>pU<14q-I>17rYE<1tO<1hʌƽȄƕ<9OeZHOU ̔Ƭ<6rǉ<3sȐ<1rǊ>4rǛ<8rƪ>5sIX<1rʚ>Hs˾>1tӵ<NsȽ>LtO<NdIFI ROHINGYA ƥƬ>17O5wǉ<3xȐ<1wǊ>4wǛ<8wƪ>5xIX<1wƤ<3xWO<1wǚ<2qƃA<1CxBA>xCA>4xDA>3yDA>xFA<2xGA>8xHA<BxJA<2xKA>ByHA<9yINNA WA>EĝYA>1xLA<6xMA>xNA>yGA>4yYA>xPA<PxRA>9yRA>xSA>1yHA>xTA<DyTA>xVA>NxWA<6xYA>1xZA<AqǴNA KHONNA>KvSAKIN<1qƙHARBAHAY>1vTAHALA>xNA>xSSI>qƷA<AwE>2wI<2wO>2wU<2dUNOO ƃA=4KGpBA>9pDA<3pGA<3pHA>CpI<GpKA>1pLA>ApMA<3pNA<3qGA<3pPA>3pRA>3pSA>2pTA<ApU<4pWA>CpYA<3iƙPAMUDPOD>7iƷƙI<2tU>cPPY PERSON RAISING Ǯ͹>2MMVcRD ׏<47cTCHING CHICK<B5dRAN ƃˎ<1AGZpYN>Eo̱<EoDALETH-RESH>1o̩<1oHE>1qTH>2o͇>2oʅ>oи>o̢>oPE>2oӱ>1o˛<1qΣ<3pζ>5o҅>pԽ<Doͪ<3oͫ>3oZAYN<3hƹǉ>LoǛ<1r ƚ>3oʚ<2pȽ>bEADPHONE>1ACOeSTONE>1DQj GRAVEYARD ƌ=7P8dR-NO-EVIL ׶>2JIKeT ׌<BUgѫ>192gƀƆ<19AlRIBBON>4lўʾ̽Ƿ<7DdVY ַƭ>KFh֨SHAFT ԋǛ>FBě ʽ>1ĜTHIRD>yȉ϶<2h҃=7QPgBALLOT X<PhͲѥǔƍƔƆ>3WtȅƍƔƆ>m˽<1UlϼɩɱƆ>2CwƔƆ<1wˍɱƆ<1gΑƕ<4JjVRON SNOWFLAKE>1DhIRCLE>SXm ƀǟʖ<1sȪƍȉǇƅ<VOmD ˯>VPhONCAVE-POINTED ƯƔƆ<Q9g˨ǡƔƆ<8hIVISION Ə<9hӨƏ>2J2YiȔˋǆǴƭ=7RYn˷ˋǆǴƭ<1iWNWARDS Ǧƀǁƞ>2JSTěȷǁƞ>3gʯǲƯȩ<28uʥȩ>1uդƯȩ=7QWmȨǂ>2JR9mˡ؆ǂ=7RFhєƏ>2JS4hˉǴ",
  "ƭ=7S2xƌ<BgɖǲƯȩ>2JQQlȨǂ<Oh͎Ҩǂ=7QCg˩Ⱥ<AgӍǬǴƭ>20hˬκ>2KHFgϧƭ<10EgȷƵ=8K5iTIN Ⱥ>2IGHhEFT-POINTING Țɯƭ=7SGĚǆǴƭ<2kȢǦƀǁƞ>2JS9ěȷǁƞ>3hɅȠևƭ<BThҭƗˋǆǴƭ=7S0kʌˋǆǴƭ<1jח̀ƨƔƆ>25gяƏ<NhԄX<3KgɩɱƆ>3NrƦBUD>2JEZĚϛ̐<8m̘ƦBUD>5Ěϛ̐<8gȠɠȺ=7Q4hUTLINED Ưȩ>HhVAL ƀOVAL ʖ>TJgƟƏ<QPgʗȚɯƭ<10ěǆǴƭ<2lȢƆ>15w ƀǁƞ>2JR4Ĝȷǁƞ>3hOUND-TIPPED ƔƆ=7TOg˯>2JNZiNS-SERIF ϧƭ<8HhCRIPT LIGATURE ևƭ<AhӓˋǆǴƭ=7RWn˷ˋǆǴƭ<1iX ǲƯȩ>2JQOkȨǂ<KhOUTH ɱƆ=7TKrƦBUD>2JF2Ěϛ̐<8m̘ƦBUD>5Ěϛ̐<8hPARKLE=7RCgTEARDROP-SHANKED ƔƆ>36qPOKED ǂ<3Iwʥǂ>5hͽƔƆ>2IhѢǲƯȩ>2JP0vʥȩ>gǐ̀ƨƔƆ=7U6iȢǦƀǁƞ>2JQIzȷǁƞ>3gƊȊ=7RUgWEDGE-TAILED ƔƆ>2QhӐƵ>2JM1mDOWN-POINTING Ƨ=7OBmǋ>2JSLh֑ƔƆ=7TGcBREW ACCENT ATNAH HAFUKH<6PEoDARGA>4pEHI>5oETNAHTA<SoGERESH>Au MUQDAM>rSHAYIM>oILUY>DoMAHAPAKH<8pERKHA>u KEFULA>pUNAH<3oOLE>7oPASHTA<IqZER>7oQADMA>6qRNEY PARA<9oREVIA<8oSEGOL<5pHALSHELET>oTELISHA GEDOLA>CwQETANA>8qVIR<EpIPEHA<5oYERAH BEN YOMO>JqTIV<GoZAQEF GADOL<5uQATAN<1qRQA>3pINOR>LhƃϿ>Xs ƀMAPIQ>1CGVy֢<2y؇>qTERNATIVE AYIN<FĚƟƏ>8pֲ=15UoBET<Hr ƀȾ>1CGVxRAFE>QoDALET=15Ft ƀȾ>1CGVoƄҪ=15Mx ƀȾ>1CGVuи=15Pu̢>1uPE>3w ƀȾ>1CGVuTSADI=15Xo̩<Jt ƀȾ>1CGVoHE=15Gq ƀMAPIQ>1CGVqT=15JoҪ>3r ƀȾ>1CGVxRAFE>HoLAMED=15Ot ƀȾ>1CGVoи=15Qr ƀȾ>1CGVo̢=15Sr ƀȾ>1CGVoPE=15Wq ƀȾ>1CGVwRAFE>9oQOF=15Zr ƀȾ>1CGVoϰ=160s ƀȾ>1CGVoSAMEKH=15Tu ƀȾ>1CGVpζ=161s ƀȾ>1CGVĞ ƍSHIN ɑ<TĤ̎ɑ>ySHIN ɑ<3z̎ɑ>oTAV=162r ƀȾ>1CGVpET=15Kr ƀȾ>1CGVpSADI=15Yt ƀȾ>1CGVoVAV=15Hr ƀȾ>1CGVxHOLAM>LoWIDE Ͽ<16tDALET>tƄи>3tHE<3tҪ>tLAMED>tϰ>1tTAV>oYOD=15Lr ƀȾ>1CGVxHIRIQ<So̜=15It ƀȾ>1CGViɅǫLAMED>OqYIDDISH ƗVAV=168ğYOD>1yVAV YOD<1yYOD YOD ֢>1CFHhǴƿɑ=151mMASORA Ƶ<Mmǐɑ>KhϮDAGESH ʵMAPIQ<",
  "8nHATAF ֢<At؇>tSEGOL<2oIRIQ>2oOLAM>4s HASER ʼVAV>nJUDEO-SPANISH VARIKA>1CGZnMETEG=14Tn֢<6n؇>t QATAN>EoUBUTS<CnRAFE>3nSEGOL<9oHEVA<6p̎ɑ>Go̎ɑ>nTSERE<DiбGERESH>1PwSHAYIM>tMAQAF<1ItNUN HAFUKHA>7tPASEQ<6tSOF PASUQ>2hYOD Ƨ>17cDGEHOG>2QP0cLICOPTER<LVdLSCHREIBER PAUSE ƌ=8OVdM ƌ<1O7eևƀƨȺ>NCcNTAIGANA ƃA-1>25O0u2>u3>uWO>sג<4u2>Du3>u4>u5>u6>sHA-1>3Uw0>8w1>v2<9v3>v4>v5>v6>v7>v8>v9>tג>Cv2>v3>v4>v5>v6>v7>tפ<Gv2>v3>v4>v5>v6>v7>t֝>Av2>v3>v4>v5>v6>v7>v8>tؠ<Hv2>v3>sפ<4Su2>u3>u4>sKA-1>Dw0>8w1>v2<9v3>v4>v5>v6>v7>v8>v9>vKE>2tג>Fv2>v3>v4>v5>v6>tפ<Kv2>v3>v4>v5>v6>v7>v8>t֝>Dv2>v3>vKI>tؠ<Gv2>v3>v4>v5>v6>v7>sMA-1>40v2>v3>v4>v5>v6>v7>tג>Bv2>vMA>tפ<Dv2>v3>v4>v5>v6>v7>t֝>7v2>v3>v4>v5>v6>tؠ<Cv2>v3>v4>sN-MU-MO-1>21Ě2>tA-1<4Gv2>v3>v4>v5>v6>v7>v8>v9>tג>Bv2>v3>v4>v5>v6>vKO>tפ<Hv2>v3>v4>v5>v6>v7>vTE>t֝>Av2>v3>v4>v5>tؠ<Ev2>v3>s֝<3Hu2>u3>sRA-1>5Yv2>v3>v4>tג>Dv2>v3>v4>tפ<Gv2>v3>v4>v5>v6>v7>t֝>Av2>v3>v4>v5>v6>tؠ<Fv2>v3>v4>v5>v6>sSA-1<5Dv2>v3>v4>v5>v6>v7>v8>tג>Ev2>v3>v4>v5>tפ<Iv2>v3>v4>v5>v6>t֝>Dv2>v3>v4>v5>v6>v7>tؠ<Jv2>v3>v4>v5>v6>v7>v8>sTA-1>Cv2>v3>v4>tג>Cv2>v3>v4>v5>v6>v7>v8>v9>tפ<Kv2>v3>v4>v5>v6>v7>t֝>Ev2>v3>v4>v5>v6>vRA>tؠ<Kv2>v3>v4>vTO>sؠ<2Ru2>u3>u4>u5>sWA-1>6Xv2>v3>v4>v5>tג>5v2>v3>v4>tפ<8v2>v3>v4>v5>t֝>4v2>v3>v4>v5>v6>v7>sYA-1<1Rv2>v3>v4>v5>vYO>t֝>4v2>v3>v4>v5>v6>tؠ<9v2>v3>v4>cRB>D3SdMITIAN CONJUGATE MATRIX=6UXcXAGRAM ʼABUNDANCE>8JGoFTER ׇ>7oPPROACH<18nBEFORE ׇ>18oITING THROUGH<17oREAKTHROUGH>LnԲɊMEET>pNFLICT<12qTEMPLATION>DnDARKENING ȕ̽ȱ>FoECREASE>4pLIVERANCE<1pVELOPMENT>CoIFFICULTY ҧ̽BEGINNING<1EpSPERSION>1",
  "JoURATION<RnENTHUSIASM<GnFELLOWSHIP<3oOLLOWING>3nGATHERING Ю>RoRACE<NpEAT POSSESSION<8vWER>JuREPONDERANCE<6tTAMING<2nΙЮ<InINCREASE>XpFLUENCE<BpNER TRUTH>TqOCENCE<10nLIMITATION>YnMODESTY<19pUTH Ϣ>BnOBSTRUCTION>BoPPOSITION<1qRESSION>8nPEACE<10oROGRESS>NoUSHING UPWARD>AnRETREAT<DqURN<9pVOLUTION>OnƖPREPONDERANCE>CtTAMING<1HoPLITTING APART>DoTANDSTILL<Bn̽ABYSMAL ԉ>GsRMY<MtOUSING THUNDER>17rCAULDRON<1sLINGING FIRE<KsREATIVE ס<TrFAMILY>ZrGENTLE Ԍ>JrJOYOUS LAKE>rKEEPING STILL ӡ<6rMARRYING MAIDEN>1rRECEPTIVE Δ<1GrWANDERER>1HsELL<8oREADING<12nմ<5oORK ʾ̽DECAYED>CnYOUTHFUL FOLLY<EbIBISCUS>2B92cGH BRIGHTNESS ƌ>CRfOCTET PRESET=3LfVOLTAGE Ə>7J3e-HEELED SHOE>2J7IfSPEED TRAIN>F7q ƀBULLET NOSE>c֖BOOT>L4cNDU TEMPLE<IXcPPOPOTAMUS>JPcRAGANA ЈYORI=9LRjɧƕ<2jƃA<2Jr˅WU>240SyYE<7YqBA=9KGrE>8rI<6rO>8rU<6qDA<MrE>6rI<5rO>6rU<4qE<TqGA>3rE>5rI<4rO>5rU<4qHA>UrE>8rI<6rO>8rU<6qI<1DqKA>6rE>5rI<4rO>5rU<4qMA>1ArE>2rI<2rO>2rU<2qN>IrA<15rE>2rI<2rO>2rU<2qO<YqPA>12rE>8rI<6rO>8rU<6qRA>HrE>2rI<2rO>2rU<2qSA<1IrE>5rI<4rȸA<MwE>5wI<4wKA>29xE>wO<25wTU>PwU<UwWA>20xE>2402xI<1xO>1wYA=9KZxO>3xU<2rO<14rU<4qTA>5rE>6rI<5rO>6rU<4qU<UqVU>25qWA<5rE>1rI<1rO>1qYA<ErO>3rU<2qZA<1CrE>5rI<4rO>5rU<4j˹ɧƕ>1VcSTORIC SITE<1WYbOCHO>2JB1cLE>20d˗QUILT Ɂƭ>6SĜ ̎Ưǋ>cMOTHETIC=6RFcNEY POT>2JW3fBEE>4TcOK>1A7cP=3LcҞȊ>68JmͲHEXAGON>26LrOCTAGON>4Fl˒<2ALlȟʢ>P4lѳƀȪƏ>L5lǮȥBLOCK-1358>2KLZĜ2<BĜ3>Ĝ4>Ĝ5>Ĝ6>Ĝ7>lSCAN LINE-1=722v3>v7>v9>lؔKEY>1J4oULATION=9v SET>3Iwƀԕ>mRAFFIC ȱ>2R6JdSE<IFf Ǒ>11gRACING<31cSPITAL>TcT BEVERAGE=7ITeDOG>2J2VePEPPER>8eSPRINGS=7L4dEL>2J5Rcճ",
  "=6XNj ƀFLOWING SAND>5ZdSE<6Pf Є>2JTPoS<8gƀGARDEN>8bRYVNIA Ə=6GKbT=9cJ>3JcS<1bUGGING Ǒ>2RNYcNDRED POINTS ƌ<VCcSHED Ǒ>ANcT>4MbYGIEA=8NUcPHEN<2BUg ̇>1EhƀƠ>2QEg-MINUS=19gATION POINT>6BDdODIASTOLE>2QYcSTERESIS ƌ<22SaI LOVE YOU ̪Ə>2KR4bCE CREAM<14NfUBE>19DeHOCKEY ؒƍPUCK<16GeSKATE=7P4bDENTICAL TO<WNm ƍɼТ>1HFkƀƽƅ>3LgFICATION CARD>2JPEdOGRAPHIC ոʜƕ=9SOxEARTH ƕ>5xӅƕ<5y͎ƕ<4ěTH ƕ>6xHEAVEN ƕ>xLINKING ƕ<DxMAN ƕ>Eyӑƕ<8xǮƕ<5xʷƕ<1xէƕ>8xќƕ>zѕƕ<7yOP ƕ>1yˢƕ<3mCLOSING ƕ<B1nOMMA<5mпȄƕ>16o؏˦ǈɊƇ<1NīƑƍƇ>1ĢǻSURROUND>ĢƜɊƑƍƩ<2ĪƩ<2ĢOVERLAID>AĢSURROUND Ȼƅ<6İƇ>İǷ>ıϐǷ>2İǐǷ<2ĶƩ>mENTERING Ȅƕ>1Fmǻǽ<17mƻFILL ʸ>1Omɧƕ<1MmLEVEL Ȅƕ>10mƹǚ<ZmˮȄƕ>Zmʸ<17mTALLY Ǵǉ>2AUTyȐ<1xǛ<3xƤ>1yWO<1nELEGRAPH ȟFEED ˲ƌ=9IVwȗʼAPRIL>I3ĢUGUST>3ġDAY Ƭ>7ZĪԻ>9ĦΡ<7ĥ͂>3ħVE<AĦȐ<1ĩτ>9ĥǊ<5ĩτ>9ĥǛ<Iĥƪ>5Īτ>9ĦIX<BĨτ>9ĥʚ<6Ħ΄>2ĪY>Gī-ONE>ħӵ<SĦδ>8ĨNTY>7ī-EIGHT>7Ĭǉ<3ĭȐ<1ĬǊ>4ĬǛ<8Ĭƪ>5ĭIX<1ĬƤ<3ĭWO<1ħO<KĢECEMBER<7QġFEBRUARY<AġHOUR Ƭ>4EīԻ>9ħΡ<7Ħ͂>3ĨVE<AħȐ<1Īτ>9ĦǊ<5Īτ>9ĦǛ<IĦƪ>5īτ>9ħIX<Bĩτ>9Ħʚ<6ħ΄>2Ĩӵ<Aħδ>8ĩNTY>7Ĭ-FOUR>3ĭǛ<3ĭƤ>1ĮWO<1ĨO<KĦǚ<2ġJANUARY<48ĢULY>5ģNE<1ġMARCH<3ģY>1ġNOVEMBER>5ġOCTOBER<1ġSEPTEMBER<1mئ˕<I2bMAGE OF<2O7i ʵAPPROXIMATELY ƫTO<2ScP>2K2ZdERIAL ARAMAIC ƃˎ<1ANZzֲ>Ey̱<Eỷ>1y̩<1yHE>1ĚTH>2y͇>2yʅ>yи>y̢>yPE>2yӱ>1yϰ>y˛<2ĚΣ<3zζ>5y҅>zԽ<Dyͪ<3yͫ>3y̜<3rƹǛ>Hě ƚ>4ĜƎ>yʚ<3ě Ǝ>3zΚ<5zȽ>1ĚO<3rɆƏ<2bNBOX TRAY>1AQ5cԲ́>2fPLETE Ӓ=89OdREASE FONT SIZE ƌ>2IV1iS AS=89TfMENT<1JVcD=3OdEX<f Ʀҧ̽VIEWER>2S1CdIAN ϲƏ=6GPeC SIYAQ ȎLAKH ƕ>2IUYmȶǮʽ<6z˭<1vƶ͐>1mLAKH ƕ<FmƹȎǛ>GĝЭƎ>1ĞWO<1tƬ<1My ƚ>HzƎ>8yY<Iz Ǝ>Qtɲ<Uy Ǝ>QvVE<10x ƚ>HyƎ>8uΦ<Jy Ǝ>QvUR<10x ƚ>HyƎ>8tKAROR>HyAN>tLAKH<4xAN>tǊ<12x ƚ>",
  "HyƎ>8xTY<Iz Ǝ>QtǛ<18w ƚ>HxƎ>8tPREFIXED Ƭ>TĜǉ<3ĝȐ<1ĜǊ>4ĜǛ<8Ĝƪ>5ĝIX<1ĜƤ<3ĝWO<1tƪ<19y ƚ>HzƎ>8yTY<IĚ Ǝ>QuIX<11w ƚ>HxƎ>8wTY<Iy Ǝ>Qtʚ<Ww Ǝ>Qu˾<Pz Ǝ>Qvӵ<10y ƚ>HzƎ>8uȽ<Jz Ǝ>QvO<10w ƚ>HxƎ>8mPLACEHOLDER>Umϲƕ>3cFINITY=6QMi NEGATED ƀƊȊ>1J3dORMATION DESK ͣ>2ILEm˲̂=SwǛ>2wƤ<2xWO>nOURCE>6JEcHIBIT ͿʰSHAPING<5PiؓSWAPPING<2cPUT ȗʼʆƢՓ>2KL1xՓ>3xƖՓ<3rNUMBERS>rSYMBOLS>cSCRIPTIONAL PAHLAVI ƃˎ<1A6Bĝ̱>ĝ̉>1ĝ̩<1ĝHE>1ğTH>2ĝ͇>2ĝʅ>ĝMEM-QOPH>ĝ̢>ĝPE>1ĝ˛>ğΣ<2Ğζ>2ĝ҅>ĞԽ<AĝԠ<3ĝͫ>3ĝ̜<3wƹ̂>KĝǛ<3Ġ ƚ>5ġƎ>ĝʚ<3ĞΚ<2ĞȽ>2ğO<4qRTHIAN ƃˎ<1Lğֲ>EĞ̱<EĞ̉>1Ğ̩<1ĞHE>1ĠTH>2Ğ͇>2Ğʅ>Ğи>Ğ̢>ĞPE>2Ğӱ>1Ğϰ>Ğ˛<2ĠΣ<3ğζ>5Ğ҅>ğԽ<DĞͪ<3Ğͫ>3Ğ̜<3xƹ̂>KĞǛ<3ġ ƚ>5ĢƎ>Ğʚ<3ğΚ<2ğȽ>2ĠO<4dERTION ƌ=70GcTEGRAL<9Hi ԥA ϮǄ>1K9kVERAGE ƀ̭<6jʢ<19DjƀƗƋ>19Boɓ>AoƾǦƀơ<2oɺ>3oƘƏ<3oǩ>3qION<2eRCALATE<1GGfIOR ʋ>1HDfLINEAR ոANCHOR>167Wxǰ>xؚ>gOCKED ѩƍѳƏ=7MSfROBANG<19Jf˱>DNm ǈ̄ǈв>1LRtв<2n̞ƍѰƀɓ>3nƀɑ<Bsָ̑>3sɺ<1cγ̇<VFiΑƕ>2KT4nחBOARD κ<RiǔǦƀў˖>TiǙ͒<10iƨƵ=7H5fӻǬƕ=4HjINTERROBANG>8ZAjLAZY S<2CAkҭӘ>2DIt ƀKAVYKA ƅ>jOHM Ə<2LBjҝ>14VjǗƕ=5BjUNDERTIE>68KdISIBLE Ф>Fkǰ<1k֮<1bZAKAYA LANTERN>2KCRaJACK-O-LANTERN<2ZcPANESE BANK ƌ=7P7jCASTLE>2J1VjDOLLS<2PjGOBLIN>6JjINDUSTRIAL STANDARD ƌ=9HGjOGRE>2HDGjPOST OFFICE<46jȗʼBEGINNER>98cR>148cVANESE ȏƙCAKRA=XJ3yKERET<2yPENGKAL>jƥƬ>Ppǉ<3qȐ<1pǊ>4pǛ<8pƪ>5qIX<1pƤ<3qWO<1pǚ<2jƜRERENGGAN<FlԂA<1PrI>8qBA>Ps ύ>qCA<Js ύ>qDA>Bs ʣ>rDA<6t ʣ>qE<IqGA>5s ύ>qHA>UqI<18r KAWI<1rI>1qJA>Fs ʣ>1qKA<As ύ>1tϕ<1qLA>SqMA<4qNA<5s ύ<5rGA<Bt LELET<Az RASWADI>rYA>Et ύ<2qO<AqPA>Ms CEREK<Stύ>SqRA>4s AGUNG>qSA>4s ʣ<1uURDA<1qTA<Fs ύ>rTA<6t ʣ>qU<KqWA>11qYA<4jPADA ADEG>Vs ADEG>pNDAP<8oISEN-ISE",
  "N>RoLINGSA<NpUHUR<3qNGSI>3oMADYA<5oPANGKAT>2pISELEH>4oTIRTA TUMETES>HoWINDU<OlNGKON<6nRANGKEP>EjƐRERENGGAN<DjƙCECAK<1Tt TELU>1DoLAYAR<1DoPANYANGGA<2oWIGNYAN>2j˷PADA PISELEH>21jƷƙDIRGA MURE<IuPEPET>uSUKU<4y MENDUT>uTALING>wRUNG<6vOLONG>uWULU>y MELIK>bEANS>1TB2bIGSAW PUZZLE ϑ>13MbOIN=8BHcYSTICK>2IQJbUGGLING>QNcNO=7N9cPITER<36aKAABA>2JGNcITHI ǍƏ<195ChȰ>4iȌȰ>oɆƕ<2hENUMERATION Ə<3hƃA<1LpA>pI>5pU>1oBA>OpHA>oCA<KpHA>oDA>CpDA<7qDHA>qHA>pHA>5oE<OoGA>5pHA>oHA>UoI<16pI>oJA>DpHA>oKA<8pHA>oLA>RoMA<3oNA<5pGA<HpNA>BpYA<7oO<BoPA>NpHA>oRA>4pHA<DoSA>HpHA<2pSA>oTA<FpHA>pTA<8qHA>oU<HpU>oVA>YoYA<3hƹƏ>Ks ƅ>FhɆƕ<FiλƸ<1Pmǃ<1mɹ>1LmǤ<1oɟ<1JhƷƙAA>19tI>5tU>1sE<3sI<4tI>sO>4sU<4tU>sǪR>DcNGAROO>19ZPeXI ӲAGAIN=9B0qND>2OqRRIVE>6sOW<MqXE<16pBADGER>2BrMBOO<ZqEAN>WqIG<36rRD>4ErTTER<10qLACK>16rOOD<1OrUE>UqOAT<11rDY>KrLT ȕCLOTH<1JrNE>2CrW<3NqRANCH>7rISTLE<6rUSH>1XpCART>TrULDRON>XrVE<25qHILD<25qITY>3FqLAN<28sW>3rIFF<1OrOTHES>39qOLOR<6rMPARE<1MrRPSE<11rVER<UrW>26pDEATH<FrER>3BqIPPER<3MrSH>13sTINGUISH>1KrVINATION<3WqO NOT>1IrG>DrOR<VrT<1OsӻCLIFF>1DwTENT>1FrȔX<GrյԪ<24qRAGON>5IrUM<5rY<4CpEAR>24sTH<2OrT>47qՊ<4SqMBROIDERY>5BqNCLOSURE<4TrTER<KqVEN>5It֓<4UqYE>20pǑ>1UrNG<2CrTHER<4qEATHER>ZqIELD<MrGHT>2GrRE<2XrSH>30qLUTE>IrY<VqOOT<QqRAGRANT>SrOG>IqUR<3FpGATE>2EqHOST>OqO<4Gr SLOWLY>rLD>3Nqբ<1GsSS>OpՄ>1DrLBERD<3KsF TREE TRUNK>RrND<QqEAD>3CsRT<3GrMP>3UqIDING ENCLOSURE<4XqOOK<HrRN>3XsSE>12pICE<4SqNCH>PrSECT>2SpJADE<1ArR>OpKNIFE<2VpLACK>1LrME<XqEAF>3TsTHER<4rEK>1rGS<4PqID<2rFE>2JrNE<2QqONG>4Lt STRIDE<36pҗ<19qEAT>3CrLON<XqILLET>2",
  "WrNISTER<1ZqOON<1LrRNING>2Esؗ<RrUND>ZtTAIN<3GsTH<GpNET>2JqOSE>2ErT<3UpOLD>1HqNE<3GsSELF>1BqρԪ<WrPOSE>3ApPIG>FqLOW<PqOWER<30qRIVATE>8rOFOUND>1Upբ>25rP<2ZrT>3XqED<1HqICE<10rGHT ȠԪ<2PrVER>OqOOF<7qUN>37pSACRIFICIAL WINE>ZrLT>4rY<3GqCHOLAR<14rRIPT>XqEAL<15rCOND<LrE>3XrLF<FqHEEP<9sLL>UrOOT<2QsRT TAILED BIRD>37wHREAD<3CqICKNESS>1FrLK>FqKIN<DqLASH<2VsVE>4MrICE<28qMALL<1DqNOUT>FqOUND>3DqPEAR<1YsECH>12rIRIT<10rOON<2KrROUT>Nqϓ>OqTAND>1ArEAM<XsP<OrǛ>1FsP<ZtPING>1OqUN<1UqWEET>QpTABLE<2BrLL>4SrNNED LEATHER<BqEN<4AqIGER>38rLE<17qONGUE>10rOTH>23qRACK<2PrEE<13rIPOD>3MqURBAN<4CsTLE>4IqWO<5Qs ѫ>1BpUSE>19pVALLEY>1CqILLAGE>FpWALK<4t ENCLOSURE<IrTER<1NqEAPON<6rST>1UqHEAT>1GrITE<2LqIND>23sE<IqOMAN<3IrRK>9qRAP<SrONG>4ApYELLOW>PdNADA AI ɔƕ<6WIiƥƬ>Noǉ<3pȐ<1oǊ>4oǛ<8oƪ>5pIX<1oƤ<3pWO<1oǚ<2iɔƕ<HkԂA<28qA>qI>9qU>3pBA>NqHA>pCA<JqHA>pDA>AqDA<5rHA>qHA>4pE<PqE>pFA>26pGA<1ZqHA>pHA>WpI<1EqI>pJA>JqHA>pKA<8qHA>pLA>RqLA>rLA>16pMA<1CpNA<6rKAARA POLLU>1GqGA<1WqNA>9qYA<5pO<CqO>pPA>MqHA>pRA>4qRA>pSA>6qHA<2qSA>pTA<JqHA>qTA<6rHA>pU<NqU>pVA>16qȳL<15yL>2CxR<2EyR>2CpYA<1DiƙƸ<19oɾ>1Mnǃ<1On˂>33nɹ<1Hn·<1KoPACING ǃ<4nˇ>35nǤ<11pɟ<22iƷƙAA>1MuI>9uU>3tE<6uE>tI<8uI>tO>9uO>tU<AuU>tǪL>VĜL>ěR<WĜR>cTAKANA ЈKOTO>75Mjɧƕ<2jƃA<2Jr˅E>23Q5yWU>81yYE<1zI<1qBA=9N4rE>8rI<6rO>8rU<6qDA<MrE>6rI<5rO>6rU<4qE<TqGA>3rE>5rI<4rO>5rU<4qHA>UrE>8rI<6rO>8rU<6qI<1DqKA>6rE>5rI<4rO>5rU<4qMA>1ArE>2rI<2sNNAN NASALIZED џ>23O7Ħ2>Ħ3>Ħ4>Ħ5>Ħ7>1Ħ8>xӾ<EĜ3>Ĝ4>Ĝ5>Ĝ7>1Ĝ8>rO=9NMrU<2qN>IrA<15rE>2rI<2rO>2rU<2qO<YqPA>12rE>8rI<6rO>8rU<6qRA>HrE>2rI<2rO>2rU<2qSA<1IrE>5rI<4rȸA<MwE>",
  "5wHA>99xE>2xI<2xO>2xU<2wI<9GwKA>29xE>xU>6XwMU>9wN>23QKxU=9V8wO<97wRA>9DxE>2xI<2xO>2xU<2wSI<CxU>wTO>xU<8GwU<UwWA>20xE>23XYxI<1xO>1wYA=9NNxO>3xU<2rO<14rU<4qTA>5rE>6rI<5rO>6rU<4qU<UqVA>28rE>1rI<1rO>1rU<6qWA<5rE>1rI<1rO>1qYA<ErO>3rU<2qZA<1CrE>5rI<4rO>5rU<4jƑɑ>1Sj˹ɧƕ>2iִƗΛ<2Ms؅ʘƕ>2Jsϳʘƕ<2Os˹ʘƕ<1cYAH LI ƥƬ>NSCpǉ<3qȐ<1pǊ>4pǛ<8pƪ>5qIX<1pƤ<3qWO<1pǚ<2jƃA>XqBA<9qCA>7qDA<9qGA<CqHA>IrTA<CqI>GqKA<QrHA>qLA>GqMA<5qNA<3rGA<7rYA>3qOE>HrO>1qPA<GrHA>qRA>3qSA<CrHA>qTA>2rHA>BqVA>1qWA<3qYA<2qZA<BjƙCWI>ToSHYA>jȄCALYA<3t PLOPHU>oPLOPHU<2jƷE<4qE>1pO>pU<2qE<2bELVIN Ə<QV0cY>2KFAdս=6Y0i ƍ֛>2K59dCAP ʚ<3RbHAROSHTHI ƥ̂<1AE4rǛ<3rƤ>1sWO<1lȶǮʽ>6lƃA<20sBA>11tHA>sCA<ItHA>sDA>AtDA<5uHA>tHA>4sGA<GtHA>sHA>TsJA<QsKA<7tHA>tKA>WsLA<7sMA<3sNA<5tNA<5tYA<5sPA>AtHA>sRA>4sSA>4tHA<2tSA>sTA<FtHA>tTA<6uHA>uTA>OvHA<1sVA<7tHA>8sYA<CsZA>6lƹǮƚ>LwƎ>sʚ<3tȽ>lǯƵ>CyRESCENT Ȋ>xȰ>2yOT<6zȔȰ>6xLINES>yOTUS<3xMANGALAM<1xƖƵ<3lƙƸ<1Vq̄ƅ>15qCAUDA>qƽƇ>sȔȑƇ<19q͗>1lǤ>1BmΨɔƕ<1FrƙE<7wI<4wO>4wU<4wǪR>cITAN Ɩ˰CHARACTER-18B00>PH8Ģ1>Ģ2>Ģ3>Ģ4>Ģ5>Ģ6>Ģ7>Ģ8>Ģ9>ĢA>ĢB>ĢC>ĢD>ĢE>ĢF>ġ10>Ģ1>Ģ2>Ģ3>Ģ4>Ģ5>Ģ6>Ģ7>Ģ8>Ģ9>ĢA>ĢB>ĢC>ĢD>ĢE>ĢF>ġ20>Ģ1>Ģ2>Ģ3>Ģ4>Ģ5>Ģ6>Ģ7>Ģ8>Ģ9>ĢA>ĢB>ĢC>ĢD>ĢE>ĢF>ġ30>Ģ1>Ģ2>Ģ3>Ģ4>Ģ5>Ģ6>Ģ7>Ģ8>Ģ9>ĢA>ĢB>ĢC>ĢD>ĢE>ĢF>ġ40>Ģ1>Ģ2>Ģ3>Ģ4>Ģ5>Ģ6>Ģ7>Ģ8>Ģ9>ĢA>ĢB>ĢC>ĢD>ĢE>ĢF>ġ50>Ģ1>Ģ2>Ģ3>Ģ4>Ģ5>Ģ6>Ģ7>Ģ8>Ģ9>ĢA>ĢB>ĢC>ĢD>ĢE>ĢF>ġ60>Ģ1>Ģ2>Ģ3>Ģ4>Ģ5>Ģ6>Ģ7>Ģ8>Ģ9>ĢA>ĢB>ĢC>ĢD>ĢE>ĢF>ġ70>Ģ1>Ģ2>Ģ3>Ģ4>Ģ5>Ģ6>Ģ7>Ģ8>Ģ9>ĢA>ĢB>ĢC>ĢD>ĢE>ĢF>ġ80>Ģ1>Ģ2>Ģ3>Ģ4>Ģ5>Ģ6>Ģ7>Ģ8>Ģ9>ĢA>ĢB>ĢC>ĢD>ĢE>ĢF>ġ90>Ģ1>Ģ2>Ģ3>Ģ4>Ģ5>Ģ6>Ģ7>Ģ8>Ģ9>ĢA>ĢB>ĢC>ĢD>ĢE>ĢF>ġA0>Ģ1>Ģ2>Ģ3>Ģ4>Ģ5>Ģ6>Ģ7>Ģ8>Ģ9>ĢA>ĢB>ĢC>ĢD>ĢE>ĢF",
  ">ġB0>Ģ1>Ģ2>Ģ3>Ģ4>Ģ5>Ģ6>Ģ7>Ģ8>Ģ9>ĢA>ĢB>ĢC>ĢD>ĢE>ĢF>ġC0>Ģ1>Ģ2>Ģ3>Ģ4>Ģ5>Ģ6>Ģ7>Ģ8>Ģ9>ĢA>ĢB>ĢC>ĢD>ĢE>ĢF>ġD0>Ģ1>Ģ2>Ģ3>Ģ4>Ģ5>Ģ6>Ģ7>Ģ8>Ģ9>ĢA>ĢB>ĢC>ĢD>ĢE>ĢF>ġE0>Ģ1>Ģ2>Ģ3>Ģ4>Ģ5>Ģ6>Ģ7>Ģ8>Ģ9>ĢA>ĢB>ĢC>ĢD>ĢE>ĢF>ġF0>Ģ1>Ģ2>Ģ3>Ģ4>Ģ5>Ģ6>Ģ7>Ģ8>Ģ9>ĢA>ĢB>ĢC>ĢD>ĢE>ĢF>ĠC00>Ģ1>Ģ2>Ģ3>Ģ4>Ģ5>Ģ6>Ģ7>Ģ8>Ģ9>ĢA>ĢB>ĢC>ĢD>ĢE>ĢF>ġ10>Ģ1>Ģ2>Ģ3>Ģ4>Ģ5>Ģ6>Ģ7>Ģ8>Ģ9>ĢA>ĢB>ĢC>ĢD>ĢE>ĢF>ġ20>Ģ1>Ģ2>Ģ3>Ģ4>Ģ5>Ģ6>Ģ7>Ģ8>Ģ9>ĢA>ĢB>ĢC>ĢD>ĢE>ĢF>ġ30>Ģ1>Ģ2>Ģ3>Ģ4>Ģ5>Ģ6>Ģ7>Ģ8>Ģ9>ĢA>ĢB>ĢC>ĢD>ĢE>ĢF>ġ40>Ģ1>Ģ2>Ģ3>Ģ4>Ģ5>Ģ6>Ģ7>Ģ8>Ģ9>ĢA>ĢB>ĢC>ĢD>ĢE>ĢF>ġ50>Ģ1>Ģ2>Ģ3>Ģ4>Ģ5>Ģ6>Ģ7>Ģ8>Ģ9>ĢA>ĢB>ĢC>ĢD>ĢE>ĢF>ġ60>Ģ1>Ģ2>Ģ3>Ģ4>Ģ5>Ģ6>Ģ7>Ģ8>Ģ9>ĢA>ĢB>ĢC>ĢD>ĢE>ĢF>ġ70>Ģ1>Ģ2>Ģ3>Ģ4>Ģ5>Ģ6>Ģ7>Ģ8>Ģ9>ĢA>ĢB>ĢC>ĢD>ĢE>ĢF>ġ80>Ģ1>Ģ2>Ģ3>Ģ4>Ģ5>Ģ6>Ģ7>Ģ8>Ģ9>ĢA>ĢB>ĢC>ĢD>ĢE>ĢF>ġ90>Ģ1>Ģ2>Ģ3>Ģ4>Ģ5>Ģ6>Ģ7>Ģ8>Ģ9>ĢA>ĢB>ĢC>ĢD>ĢE>ĢF>ġA0>Ģ1>Ģ2>Ģ3>Ģ4>Ģ5>Ģ6>Ģ7>Ģ8>Ģ9>ĢA>ĢB>ĢC>ĢD>ĢE>ĢF>ġB0>Ģ1>Ģ2>Ģ3>Ģ4>Ģ5>Ģ6>Ģ7>Ģ8>Ģ9>ĢA>ĢB>ĢC>ĢD>ĢE>ĢF>ġC0>Ģ1>Ģ2>Ģ3>Ģ4>Ģ5>Ģ6>Ģ7>Ģ8>Ģ9>ĢA>ĢB>ĢC>ĢD>ĢE>ĢF>ġD0>Ģ1>Ģ2>Ģ3>Ģ4>Ģ5>u̴<5PTcMER CURRENCY ȗRIEL=4PNgƥƬ>Cmǉ<3nȐ<1mǊ>4mǛ<8mƪ>5nIX<1mƤ<3nWO<1mǚ<2gɷƷLY<1FĚY>yQAA<AĚI>BĚQ<DĚU>FzE<4zI<AĚI>zOO TYPE Ǜ>AġΈ>zU<BĚK>ĚU>ěV>yRY>ĚY>gƃBA<OnCA<FoHA>pO>1oO<1nDA>2oO>1nHA>JnKA<WoHA>pO>1oO<1nLA>UoO<6nMO<3nNGO<KoNO>9oO>4oYO<AnPHA>BpO>1oO<1nQA>BnRO<8nSA>4oHA<2oSO>nTA<FoHA>pO>1oO<1oTHA<6qO>1nVO>EnYO<3gƙAHSDA>1HmTTHACAN>DmVAKRAHASANYA<1lBANTOC<HnRIYOOSAN>9nTHAMASAT<2mEYYAL>4lCAMNUC PII KUUH<2mOENG<4lKAKABAT<4mHAN>5mOOMUUT>5lLEK TOO<3lMUUSIKATOAN<ElNIKAHIT<3lPHNAEK MUAN>IlREAHMUK<ImOBAT>4lSAMYOK SANNYA>3lTOANDAKHIAT<3mRIISAP<3lVIRIAM>6lYUUKALEAPINTU<9h̿BEI ͟>EYrҟ>FoUON ͟<Fsҟ>FnDAP ͟<A",
  "rҟ>Fq-BEI ͟<Dvҟ>FsUON ͟<Fwҟ>FrMUOY ͟<Jwҟ>FrPII ͟<Fvҟ>FsRAM ͟<Dwҟ>FnLEK ATTAK BEI<EKyUON>xMUOY<3xPII>yRAM>2ě-BEI>2ĝUON>ĜMUOY<3ĜPII>xSON<7nMUOY ͟>DSsҟ>FnPATHAMASAT<HoII ͟>1rҟ>FoRAM ͟<Dsҟ>Fr-BEI ͟<Dwҟ>FtUON ͟<Fxҟ>FsMUOY ͟<Jxҟ>FsPII ͟<Fwҟ>FnTUTEYASAT<7gƷINHERENT AA<FVwQ<1mƙAA>1sE>BsI>sU>1rE<4rI<AsE>8sI<8rOE>5sO>5rU<9sA>1sU<1rY<3sA>5sY<5cOJKI ǍƏ>1DHEhȰ<5iȌȰ>oɆƕ>2hƃA<1OpA>pI>3pU>1oBA>PpBA>pHA>oCA<LpHA>oDA>BpDA<5qDA>5qHA<5pHA>5oE<PoGA>5pGA>pHA>oHA>ToI<14oJA>DpJA>oKA<9pHA>oLA>TpLA>3oMA<7oNA<6pGA<HpNA>ApYA<5oO<DoPA>OpHA>oRA>5oSA>2oTA<GpHA>pTA<6qHA>oU<IoVA>10oYA<3hɆƕ>LiλƸ<7mɹ>1mSHADDA>nUKUN>6mǤ<9hƷƙAA<9tI>4tU>1sE<3sI<3tI>sO>3sU<3hдǰ>AcUDAWADI ƥƬ>59qǉ<3rȐ<1qǊ>4qǛ<8qƪ>5rIX<1qƤ<3rWO<1qǚ<2kƃA<1SsA>sI>5sU>1rBA>QsBA>sHA>rCA<MsHA>rDA>DsDA<7tDA>tHA>1sHA>4rE<QrGA>5sGA>sHA>rHA>VrI<18sI>rJA>EsHA>1sJA<1rKA<9sHA>rLA>UrMA<3rNA<6sGA<IsNA>CsYA<7rO<DrPA>PsHA>rRA>5sRA<FrSA>IsHA<1rTA<FsHA>sTA<8tHA>rU<JsU>rVA>11rYA<3kƙƸ>6pɹ>9pǤ>kƷƙAA<AwI>5wU>1vE<3vI<4wI>vO>4vU<4wU>bIMONO>18J7cP Ə=6GDcSS>2KF5e ƕ<4eɜԮͯƀʊ͸>C1iǑ<12m ƀʊ͸>2s͔͸<1cTE>VBcWIFRUIT<84bNEELING ͣ>34cOT>5VbOALA<1A2cREAN STANDARD ƌ=9Z3bRONOS<1B0aL B ̄ƌ<24VbAB COAT>2LBBdEL<139cCROSSE ؒƍη>11XcDDER>9AdY BEETLE<1A6cNGUAGE TAG>GX5UcO θƕ=2X8eƥƬ>Bkǉ<3lȐ<1kǊ>4kǛ<8kƪ>5lIX<1kƤ<3lWO<1kǚ<2e˒<XeHO MO>19hNO<1eKO LA<MeƃBO<18lCO<IlDO>BlFO FAY>ApON<2oխ>1oTAM<2lHO խ>DoTAM>2lKHMU GO>1BqNYO>nO խ<2LpTAM>1mO<3lLO>Zn LING<2pOOT>1lMO<4lNGO<QmO>HmYO<ClO>VlPALI BHA<DqѤ<NqDDA>7sHA>rHA>5qGHA<IqJHA>5qLLA>VqNNA<PrYA<5qTTA>sHA>mHO խ>BpTAM>1mO<3lRO>7lSANSKRIT ѿ>4vSA>mO խ>oTAM<WlTHO խ>B",
  "pTAM>mO<2lWO>HlYO<5eNIGGAHITA>16eSEMIVOWEL ƙLO<HtNYO>fλPALI Ǥ<3eȄӝCATAWA>GnEK<3nTHO>oI>eƷƙA<QqA>1qI>HqM<HqY>FpE<3qI>pI<DqI>pӝKAN<4uON>9pO>6pU<AqU>pY<3qY>cRGE BLUE Ƶ>2O3HlǺ>1lǋ>J2hROWN Ƶ<2mǋ>6gƵ=7HRgǱ̃>DLgGREEN Ƶ>2JNSmǋ>6gƜǠǄ=8BIgǮƽƣȉǇǜ>18GUkȑƣȉRINGS ǜ>1hӳƵ>1AQOnǺ<IYnǋ>J4gPURPLE Ƶ<4nǋ>6gϯƵ<JAkǋ>J4gɣƊ̄Ǆ=8HOhˢǇƣǮƽǜ>18ANkRINGS ƣǮȑǜ>1gʨ̃=7VCgYELLOW Ƶ>2JNSnǋ>6fR THAN=8FFl ʵƫTO>1dI Ə<1YNcST ȹMOON>133r ƌ>2J14sƀǑ>4cTIN ƢƃA=1Tw ƀǀ>3JĜȇ>1Sġ ƍǀ>5UZĦƽƇ>7Ħǘ<6ĦȞƅ>1ĦǏ>1Ĝȁ=CTĝǭ<7FĦ ƍǀ>5WHīƽƇ>7īǘ<6īȞƅ>1īǏ>1ĜƠ=5Gĥ ƍǅ>7Tĝ̣ƅ>1Zĥ ƍǅ<1YĠƇ>5OFĞȔǘ=E8Ĝǘ<8WĜȞƅ>5WHĜƱȇ=EAĜǅ<76Ĝ˫>3Ĝȑƅ<1RĦ ƍǀ>8KġƇ>5J9ĜƋ=FUĜǏ<AFwA>WVIwE=5Ix ƀǀ>8Lĝǅ<QwFRICAN D<2Hw̹>8GZwNGLICANA W>OD0wO<3YwU>1wV>1x ƀƒȊ>1wY>1vB=1Uw ƀƽƅ>5VJĠƇ>1ĜΖ>R69Ĝơ=APĜȟƇ>5MSĜƋ=G3Ĝ؝<5Dwε>WTTwROKEN L<32vC=1Vw ƀǀ>5EĜȊ>WWBĜȁ=7Gĝȭ<1Xģ ƍǀ>5S0ĝǭ=7CĜƽƅ>1Ĝơ>3GĜǖơ>WU4ĜƋ=FVwHI>WONw΢ӔG>SwON<2QwUATRILLO<1UĞ ƀɂ>1vD=1Ww ƀȁ>5Lĝȭ>5Q9ĝɀƇ>1Ĝƽƅ<8ĠƇ>1Ĝơ=AYĜȟƇ>5MRĜȖȪȍ>R7CĝȸƃZ=DUĪ ƀȁ<19ĝʹ<51Ĝ؝>3EwZ>2Tx ƀȁ<19vE<ANw ƀǀ>3NĜȇ>22Ĝȁ>5ĝȭ>7Hģ ƍȇ>5IRĝǭ=5MĦ ƍǀ>5WZīƽƇ>7īǘ<6īȞƅ>1īǏ>1ħƇ<4SĜƠ=5Nĝ̣ƅ>22ĠƇ>5UPĞȔǘ=ECĜǘ<8SĜȞƅ>5WXĜƱȇ=EEĜǅ<6SĢ ƍǀ>5QBħǘ<2Ĝ˫=7SĜƋ>8DĜǏ>5MDġ Ƈ<4IwԒѣ>R2HĤLEF<2wNG=96wSH>2MwT>WQOxH=5SwZH>6Ey Ӷ>zƀȁ>1HvF<BSw ƀƽƅ>5W7Ĝơ=B5ĜƋ>WSMvG=1Zw ƀǀ>BWĜȇ<5YĜȁ>5Jĝȭ<5Gĝǭ<6Ĝƽƅ>3Ĝơ>36Ĝǅ>5N0ĜɎƋ>R5RĜƋ=DGwΌ<28wHA>DwϨA>WT3ĝI>1ĝǽ=G1ĝU>WOSvH=20w ƀׁƇ>5WHĜȁ=F2ĝȭ>5JDĝǭ=84Ĝư>8JMĝʏ<2TDĝ̣ƅ<4ĠƇ>1Ĝơ>R5XĜƋ=86wALF H>8JYwENG>O8GwWAIR=DYvI<BXw ƀǀ>3NĜȇ>2MĜȁ>4Iĝǭ<75ĜƠ>ĥ ƍǀ>5SUĝ̣ƅ=8GĠƇ>5UHĞȔǘ=EGĜǘ<8SĜȞƅ>5X7ĜƱȇ=EIĜǅ<68Ĝ˫>3ĜƋ>2WĜǏ<33ġ Ƈ>5QBwѶD>R4CĝF>1ĝG>1ĝR>4ĝS>1ĝT>1wҬ=BAwS>WR9vJ=22w ƀ̲>6Hĝͳ>WVXĜƋ=G8vK<E5w ƀǀ>5WKĜȁ=",
  "DKĝȭ<4YĜư>8J6ĝIAGONAL Ƌ>O9Kĝ̣Ƈ<R2OĜơ=BCĜȟƇ>5NFĜɎƋ>R59ĜƋ<2QĢ ƍǌƋ>3vL=24w ƀǀ>6KĜȊ>77ĝELT>WOFĜȁ=8Tĝȭ<2ĝɀƇ>5Q8ĜƽƇ<6ĥ ƍǅ>1ĞȔȊ>2SNĜʎƋ>O9ZĜȟƇ<R2MĜƑɑ=8VģǏ>8IQĜƖƃJ=COĝʹ<3RwJ>3PvM<AIw ƀǀ>5WWĜƽƅ>1ĠƇ>1Ĝơ>2SRwӑSCOTS S>ODJě-WELSH LL<R18ĢV>1vN=26w ƀǀ>6SĜȁ>3ĝȭ<2ĝɀƇ>5QCĜư>R45ĝ̣ƅ<R4CĠƇ>1Ĝǘ=E0ĜƜơ<2JĝINE Ƈ>5NUĝͼƐҖ=F4ĜɎƋ>WOZĜƖƃJ=CRĜǏ<6YwJ>6WvO<AJw ƀǀ>3NĜȇ>3EĜȁ>3Mĝǭ<71Ħ ƍǀ>5X7īƽƇ>7īǘ<6īȞƅ>1īǏ>1ĜƠ=5Yĥ ƍǅ>9Fĝ̣ƅ>3ĥ ƍǅ>1ĠƇ>5NFĞȔǀ=9Cģǘ>57Ĝǘ<8QĜȞƅ>5X7ĞRN=BKĠ ƍǀ>5RTĥƽƇ>7ĥǘ<6ĥȞƅ>1ĥǏ>1ĜƱȇ=EMĜȂȪȍ>WMZĞOP>1Ĝǅ=98Ģ ƍǀ>5QDħǘ<2ĝӑǏ=BJĜ˫>22Ģ ƍǅ>1ĜƋ<7OĢ ƍǀ>85ĜǏ<89ġ ƍǀ>5TIĦƠ>1Ħǅ=FGwI<3Uw׮POLISH O>WT9w̺<AwO<2WwρE=B4ĚO<AwU>4BvP<CYw ƀǀ>5XFĜƽƅ>1ĜΖ>R23Ĝơ=BOĜSQUIRREL ȓ>WQ7ĝʹ<OA9Ģ ʒư>OA4vQ=29w ƀǌƋ>WZQĜȪʒư<2vR=2Aw ϱ>WZRxƀǀ=9GĜȁ>3ĝȭ<2Ĝƽƅ>5Q9ĠƇ>1ĥ ƍǅ>1ĞȔǘ=EOĜƱȇ>1ĜȟƇ>5L7ĜɎƋ>R47ĜƋ=GCĜȓ>8BBw̋C ƀɑ>O9LĞE=B2ĞƻH>WVAĞȠE<22wUM ϱ<27vS=2Bw ƀǀ>7Aġ ƍƽƅ>5QHĜȁ=9Sġ ƍƽƅ>5QDĝȭ=9Qĝǭ<2ĝѷƇ>57Ĝƽƅ>5L3ĠƇ>1ĥ ƍƽƅ>5Ĝơ>R4SĜɎƋ<TĜȖȪȍ>WĝԈȓ<OCRwALTILLO>OB0wׅ=B3xRIPT G>WT8wHARP S<R2MwIGMOID S>R3TwȸƢI<16ěQ ƀȞȓ=GAvT<DYw ƀȁ>7Jĝȭ<2ĝɀƇ>5QLĝѷƇ=EYĜǌƋ>Zĝ̣ƅ>5KBĠƇ>1Ĝơ=BWĜȟƇ>5OHĜƮơ=BYĜƋ<20wՉ<3SĚ ƀƋ>WW5Ħ ʒư>1wǮǉ=CCĚSIX<1KĚΈ>YwRESILLO>WOYw˸A<O8Rĝ̹>ĜH>OBGĜӔG<FĜK>1DĜL<1CĜM=BGĜT>WT0ĜV=G5wZ>WKIvU=2Dw Ȋ>DQxƀǀ<A2Ĝȇ>41Ĝȁ>2Uĝǭ<6WĦ Ƈ>5UIĜƠ=64ĥ ƍǀ>6YĪȁ>1Īǘ>1Īǅ<6ĦƇ>5NGĝ̣Ƈ>35ĞȔǀ=A8ģǘ>4JĜǘ<8RĜȞƅ>5XOĞRN=BZĠ ƍǀ>5RSĥƽƇ>7ĥǘ<6ĥȞƅ>1ĥǏ>1ĜƱȇ=EUĜǅ<4SĢ ƍƠ>5QNĜ˫=AAĜȑƅ<4ĜƋ>WUHĜǏ=A0ġ ƍǀ>5QNĢƇ<4wȯ=C1vV<9Nw ƀǌƋ>WZRĝ̣Ƈ<R1CĜơ=C2ĜǏ>5OPwEND>R1Nw׫Z<6wOLAPUK AE>1JĝOE>1ĝUE>1wY<1QvW=2Fw ƀǀ>5YIĜ̲=ACĜƠ>5QNĝ̣ƅ>1ĠƇ>1Ĝǘ<8Ĝơ>2R5wYNN=DZvX<BJw ƀƠ>5YRĝ̣ƅ<2vY=2Hw ƀǀ>3NĜ̲>48ĜƠ>1ĝ̣ƅ>5QTĠƇ>2TĜǘ<2Ĝơ=C3Ġ ƅ>5S2Ĝ״>7Ĝǅ=FMĜƋ>",
  "RĜǏ>5NTwOGH=F0vZ<CIw ƀǀ>7YĜȁ>3ĝǭ>5QQĜư>2QIĝ̣ƅ=AJĠƇ>5QUĜơ=F8ĜȟƇ>5M7Ĝǖơ>R3LĜƋ=C5ĝԈȓ>8G9pɅIJ=8IxOE>VhROSS>7GQgEPIGRAPHIC ƃҵM>PGHyI LONGA<1zОM<1yȀF<2ġP>ySIDEWAYS I<5gƃѣ<RF6oLVEOLAR Β=CInBIDENTAL ؃>6IpՐΒ<Lw؃>JnDENTAL Β<6Kn˔ǽ>5Vz ƀƋ>CnƱ˔ǽ<BĢ ƀΓ>2M47ĨƋ=CEnLATERAL Β>2nPHARYNGEAL ˹FRICATIVE>5VnƮΒ<5UĜ ƀƮơ>2M9YpVERSED ESH ״=BUw˔֭ƀƋ>6VnSINOLOGICAL ɑ>WKSoȸƢA<RDBĜE>ěB=IHĜҶB>57TěC>ěD>ěE>1ĜTH<1ĜZH>SěF>R9OěG=GYĜ ƀơ>1KěH>ěI<1EĜОR>MěJ>58OěK>ěL=INĜ ƀҸ>2M3OĢƋ=5QKěM>ěN=HGěO>596ĜE=HIĜρO>595ĜU>4ěP>2ěQ>RDIěR=HSĜ ƀƐҖ>XC5Ĝ̋N<S3CĤR>AĜUM>RBWěS<1XěT<R9YĜ˸E>31BĢG>2DTYĢK>DĢM=X6IĢR<RFKěU>1ěV>3ěW>ěY=I7ěZ>58YoTRETCHED C=IFy ƀΓ>2M47nȉƀƋ=CBn˹LARYNGEAL SPIRANT>5EWnWYNN=CFnYR<PgƖƢƃI ƀƋ>5HWěU ƀƋ>2mƃA=2Pu REVERSED-SCHWA>XQNvƀǀ=69Ěȇ>Xğ ƍǀ>5UZĤƽƇ>7Ĥǘ<6ĤȞƅ>1ĤǏ>1Ěȁ=CUěǭ<6KĤ ƍǀ>5VMĩƽƇ>7ĩǘ<6ĩȞƅ>1ĩǏ>1ĚƠ=6Cģ ƍǅ>6Yẹ̌ƅ>1Zģ ƍǅ<1YĞƇ>5OFĜȔǘ=E9Ěǘ<81ĚȞƅ>5VMĚƱȇ=EBĚǅ<76Ě˫>3ĚƮơ>5MXěɶƻə>7EĜNG ƅ=6DĤ ƍǀ>7PğƇ>5J9ĚƋ>2UBĚǏ=6BuA>WUNuE=6Ev ƀǀ>7Qěǅ<Qu̹>31y ƀƮơ>5DQuNGLICANA W>RAQuO<3YuU>1uV>1v ƀƒȊ>1uY>1tB=2Qu ƀƽƅ>5UOĞƇ>1ĚΖ>R69Ěơ=GJĚȟƇ>5GZĚƑǏ<4BĚǖơ>JĚƋ=AOĚ؝>2uҶҳ>XIKĚE>2ĚO=HHvSELINE ESH>XCNuε<PKuLACKLETTER E>OSğO>AĠ ƀƋ>u؀ƻO<S2VuROKEN L>RANtC=2Ru ƀǀ>4JĚȊ>WWBĚȁ=7Hěȭ<12ġ ƍǀ>5R5ěǭ=7Děإ>97Ěƽƅ<96Ěơ>3GĚǖơ>WSRĚƮơ>1PJCĚƋ=FWuHI>XEEw ƀ˗ƜSERIF>1ĠƐə<1u΢ӔG<OZĚ͍=HJěρE>YĚȀȠE<1OuON>WLSuUATRILLO<1UĜ ƀɂ>1tD=2Su ƀȁ>4Qěȭ>5Q9ěɀƇ>1ěإ=F5Ěƽƅ>5IHĞƇ>1Ěơ=GNĞ ƍȓ>5DLĚȟƇ>3HĚƑǏ<4IĚǖơ>JĚȖȪȍ>RBAěʹ=7LĚȓ>90ěOPBAR<5MuB ɋ>4Ruι>5LYvZH ɋ=ISğ ƀǖơ>2M3XĥƮơ>6ṳI=8HěJ>79Ĝ ƀƋ>13Ĩ ƍơ>10vȔR>XC3ě ƀ˧>1ĚTHORN<ONĚWYNN>1uUM<2SuZ=DVv ɋ>4Vĝ ƀΓ>1ģƮơ>XC0wƀȁ=CMtE<9Tu ƀǀ>3NĚȇ>17Ěȁ>5ěȭ>7Hġ ƍȇ>5IRěǭ=6IĤ ƍ",
  "ǀ>5W4ĩƽƇ>7ĩǘ<6ĩȞƅ>1ĩǏ>1ĥƇ<4SĚƠ=6Jẹ̌ƅ>17ĞƇ>5UPĜȔǘ=EDĚΖ>XF2Ěǘ=6GĚȞƅ>5W2ĚƱȇ=EFĚǅ<6SĠ ƍǀ>5QBĥǘ<2ĚNOTCH>2UAĚ˫=7TĚƮơ>5MGĚƋ=G7ĚǏ>5MDğ Ƈ<4IuԒѣ>R2HĢLEF<2uNG=97w ƀ˧>XKGĜǖơ>1OT3uSH=HVw ƀΓ>2ĜƗȊ>2M4KĦ ƍΓ>Ĝǖơ=5U3ĜƮơ>CuT>R82vH=6OuZH>BLw Ӷ<61xƀȁ>1Hĝإ>4JĜǖơ>2M4KĜƮơ=5UIĜȓ=CAtF<9Gu ƀƽƅ>5VCĚơ=B6ĚƑǏ>5I3Ěǖơ>JĚƋ>R9YuENG ɋ=IXğ ƀTRILL>2M3AtG=2Vu ƀǀ>B1Ěȇ<5YĚȁ>5Jěȭ<5Gěǭ<6Ěƽƅ>3Ěơ>8UĚǅ>5HCĚɎƋ>R5RĚǖơ<RA6ĚƋ=DHuΌ>3HuHA<5CuϨA>WT3ěI>1ěǽ=G2ěU>WOStH=2Wu ƀׁƇ>5VMĚȁ=F3ěȭ>5JDěǭ=85Ěư>8JMěʏ<2TDẹ̌ƅ<4ĞƇ>1Ěơ=H2ĚȟƇ>5KFĚǖơ>R26ĚƋ=87uALF H>8JYuENG>O8Gx ƀơ=H3uV<5UtI<8Cu ƀǀ>3NĚȇ>1RĚȁ>4Iěǭ<6AĚƠ>ģ ƍǀ>5RZẹ̌Ƈ>4BĜȔǘ=EHĚǘ<7XĚȞƅ>5WCĚƱȇ=EJĚǅ<68Ě˫>3ĚƮơ>5LYĚƋ=H4Ġ ƍƮơ>2M5TĚǏ=89ğ Ƈ>5QBuѶD>R4CěF>1ěG<R9FěR>R9LěS>1ěT>1vVERTED ҳ>RGĜOE<10uҬ=H5x ƀƋ>5CIwצE>S10uS<S4tJ=2Yu ƀȁ>ATěǭ<57ěͳ>9ZĚƋ<2CtK<DAu ƀǀ>5VPĚȁ=DLěȭ<4YĚư>8J6ěIAGONAL Ƌ>O9Kẹ̌Ƈ<R2OĚơ=BDĚȟƇ>5NFĚɎƋ>R59Ěǖơ<RA7ĚƋ>R7GĠ ƍǌƋ>3uRA=8OtL<5Ou ƀǀ>5PĚȊ>2NěELT>5TĞ ƍǖơ>2M5IĚȁ=8Uěȭ<2ěɀƇ>5Q8ěإ=FOĚƽƇ>5J6ģ ƍǅ>1ĜȔȊ>2SNġƑǏ>P1YĚΕ>1OT4ĚʎƋ=X1LĚƱLAZY S>RXĚȟƇ<RUKĚƑɑ=8Wġə>XKOġǏ=H7Ěǖơ>5CPĚƮơ=H9Ĩ ƍҸ>WM8ĚƋ=8YuAMBDA ƀƋ>2GuENIS F>XI1vZH=HAx ƀƮơ>2M52uJ=CPuͼS<22z ƀǌƋ>5R0Ġ̣ƅ<1ğʎƋ>1uS ɋ=IYuUM>WJRuZ ɋ=IZtM<FYu ƀǀ>5W1Ě˧>RUIĚƽƅ<RUHĞƇ>1Ěơ=HDĚƑǏ>5BXĚǖơ>MuӑSCOTS S>RBKz-WELSH LL<R18ĠV>1uUM>QYDtN=32u PRECEDED BY Ύ>62vƀǀ<5Ěȁ>3ěȭ<2ěɀƇ>5QCěͳ>RU7ěإ=FPĚư>WNVẹ̌ƅ<R4CĞƇ>1Ěǘ=E1ĚƜơ>3CěINE Ƈ>5HYěͼƐҖ=BIĚƑǏ>5HTĚɎƋ>RASĚǖơ<RA6ĚƮơ=HFĚǏ<AQuJ>62uUM>WPZtO=33u ƀǀ>3NĚȇ>2JĚȁ>3Měǭ<66Ĥ ƍǀ>5WCĩƽƇ>7ĩǘ<6ĩȞƅ>1ĩǏ>1ĚƠ=6Uģ ƍǅ>8Kẹ̌ƅ>3ģ ƍǅ>1ĞƇ>5NFĜȔǀ=9Dġǘ>57Ěǘ<7VĚȞƅ>5WCĜRN=BLĞ ƍǀ>5RTģƽƇ>7ģǘ<6ģȞƅ>1ģǏ>1ĚƱȇ=ENĚȂȪȍ>WMZĜOP>1ĜW ȑʖ<O9FĚǅ=99Ġ ƍǀ>5QDĥǘ<2Ě˫=DNĠ ƍǅ>1ĚƮơ>2",
  "M99ĚƋ=6WĠ ƍǀ>7AĚǏ<7Eğ ƍǀ>5SNĤƠ>1Ĥǅ=FHuI<3Uu׮POLISH O>WT9u̺<AuO<2WuρE=GRz ƀƮơ>5DJyO=GKz ƀƮơ>5DUğƋ>RZBzE>YuU=F7tP<C3u ƀǀ>5WKĚƽƅ>1ĚΖ>R23Ěơ=BPĚƑǏ>5HNĚǖơ>MĚSQUIRREL ȓ>R7Wěʹ<R88Ġ ʒư>R83uHI=HKtQ<EFu ƀǌƋ>WYVĚơ=IOĞ ȓ<2DĚȪʒư>WLNuP ɋ=FTtR<CNu ϱ>WYWvƀǀ=9HĚȁ>3ěȭ<2ěͳ>XKHĚƽƅ<RU8ĞƇ>1ģ ƍǅ>1ĜȔǘ=EPĚΕ>30Ģ ƍƑǏ>5BOħǖơ>2GTEĚƱȇ=ERĚȟƇ>5L7ěͼҖ=HOĚƑǏ>5BPĚɎƋ>RASĚǖơ<RA6ĚƋ=GDĚȓ>1BzӪHANDLE>XC9uAMS Չ=H0űC>65Bĝ ƀɑ>QEYĜE=GOĝNG>2M5QĜƻH=X6EĜK>1PFWĜȠE=GSĢ ƀơ>ĨƮơ>5DIĜR ƀΕ=HRĜ˰G>2M4HuUM=X2Tw ϱ<OtS=37u ƀǀ>6Fğ ƍƽƅ>5QHĚȁ=9Tğ ƍƽƅ>5QDěȭ=9Rěǭ<2ěѷƇ>57ěإ>2M84Ěƽƅ=601ĞƇ>1ģ ƍƽƅ>5Ěơ=HUĚƑǏ>5BLĚɎƋ>RASĚǖơ<RA7ĚȖȪȍ>RB3ěԈȓ=FZuAKHA YAT>XEOvLTILLO<R8uׅ=GPy ƀơ>ĞƮơ>5DMvRIPT G=GXě ƀ˧>XCKĚR>Kě ƀə>uHARP S=67uГDIAERESIZED U>5KUĜO<Dĝ ƀƋ>1ĝρO<1Ĝ˷M>CĜU<2vGMOID S>REJuQUAT ȀESH=HXuTIRRUP R>XBZtT=38u ƀȁ>6Oěȭ<2ěɀƇ>5QLěѷƇ=EZěإ>QĚƠ>5LSĝGONAL Ƌ>2Q6ẹ̌ƅ<2RFĞƇ>1Ěơ=BXĞ ƍƮơ>2MAJĚȟƇ=60FĚƑǏ<6YĚǖơ=BVĚƮơ>64ĚƋ<81uAILLESS PHI>8I7uC ЈƀΓ=IWuESH ɋ<1ğ ƀǖơ>2M3ZĥƮơ>4uH ƀSTRIKETHROUGH=5TMvORN=72y ƀƋ>WVAĤ ʒư>1uǮǉ=CDySIX<1KyΈ>YvP ƻO>5F1uRESILLO>R9WuS ɋ=IUĝ ƀƮơ>XC0uUM<S0vRNED A=GGěE>59Tě̹=GIĚփ<5HĚE>27ĚG>5G9ĚH=H1ě ƀΕ>20ĩ ƍȓ>ĚI>57DěѶG>RCLĚK=IMĚL>WKIĚM=HBě ƀȂҖ>ĚO OPEN-O>XCIĢ ƀƋ>ěE<S34Ĝ ƀƒƋ>S31ĢƋ<1ěρE<S3DĚR=HLě ƀơ>1ġȂҖ<1ĩ ƍƮơ>2M4TġƑǏ=XUWġǖơ>1ORWġȓ=8S9ĚT=HZě ƀΓ>2M4LĚUI=XU9ĚV=I4ĚW>ĚY>ě ƀҸ>2M47uZ=X0PtU=39u Ȋ>ERy ƀȖƐҖ>XC5vƀǀ=6YĚȇ>36Ěȁ>2Uěǭ<61Ĥ Ƈ>5TNĚƠ=70ģ ƍǀ>63Ĩȁ>1Ĩǘ>1Ĩǅ<6ĤƇ>5NGẹ̌Ƈ>35ĜȔǀ=A9ġǘ>4JĚǘ<7WĚȞƅ>5WTĜRN=C0Ğ ƍǀ>5RSģƽƇ>7ģǘ<6ģȞƅ>1ģǏ>1ĚƱȇ=EVĚƜơ>XFEĚǅ=A3Ġ ƍƠ>5QNĚ˫=ABĚƮơ>5K5ěɜƅ=A7ĚȖƐҖ>XJYěʹ<PHĚǏ=A1ğ ƍǀ>5QNĠƇ<4uE<7EuI>S10uM<RCuO>RUuȯ=I2Ě ƀƋ>5BOtV=3Au ƀΓ>8OTĚǌƋ>OA2ẹ̌Ƈ<R1CĚơ=I3Ěǖ",
  "ơ>5C0ĚƐơ>2XWĚǏ<2R8uEND>R1Nu׫Z<6uOLAPUK AE>1JěOE>1ěUE>1uY<1QtW=3Bu ƀǀ>5XNĚ̲=ADĚƠ>5QNẹ̌ƅ>1ĞƇ>1Ěǘ<8Ěơ>2R5Ěȑƅ<2QJtX=3Cu ƀƠ>5XWẹ̌ƅ<2ĚȂƜҖ>RT7ħ ƍ˗Ɛə>ĨƀSERIF>ĜW Ɛə<3Ěǖơ<S09tY=3Du ƀǀ>3NĚ̲>3DĚƠ<3Cẹ̌ƅ>5U7ĞƇ>2TĚǘ<2Ěơ=C4Ğ ƅ>5S2Ě״>7Ěǅ=FNĚȑƅ>5LXĚȖƐҖ>RSWěʹ=GFĚǏ>5NTuOGH=F1tZ<BNu ƀǀ>73Ěȁ>3ěǭ>5QQěإ=I9Ěư>89Mẹ̌ƅ=AKĞƇ>5QUĚơ=F9ĚȟƇ>5M7ĚƑǏ<7ZĚǖơ>NĚƮơ=I8ĚƋ<62ěԈȓ>3TnɅFF>1D4VxI>2xL>wI<3wL>vIJ=8JvȂS T>1DCHvOE=9FvST>1DBMhϙƖƃA=6FKĝE>ĝH>3ĝI<MRĝJ>2ZDĝK<2CMĝL>ĝM>ĝN>ĝO<7ĝP>7ĝR<MVĝS>MVĞׅ<7ĝT>7ĝU<MWĝV>ĝX>MLbEAF FLUTTERING ̎Ԍ>2K6NeY GREEN>17ScDGER<WQcFT ƍƿƍƐȼƶʈǥ>1AUpǮȥǥ>IjƐƗʧ=7VEp̃>qіƻǥ>2KE7jǐƍƐȼƶʈǥ<1CpǮȥǥ>HhGER ͛<13JiLE Ɠ=9HKs ƀɑ<19ZgRC ʱƓ>1hROW ƀȴФ>BIqƖƵ<2fǎǱƐǎǱˀ<DCĚʨˀ<5kʨƐǎǱˀ<1yʨˀ>3gͲɬƓ>1C1lȣɈƓ<1A1fϠ<1ANg΢ENTRY>R7gѐƓ>1TBgϚƓ=3Fs ƿơ>6Y5tƑϑ<1tǐơ<1fȿ̮Ɠ>21OhȔȚƓ>EDmƲ<DEmǆƕ<2RWmWIGGLY ӄ>1X9f֋ȓ<2MhԆɛǥ<S1gLOOR<HTfƻƯƵ>JVqȩ>175mOCK<198kƵ>2KCAq ƀɑ<1wɗʃ<3wƶʃ>xˢʃ>kӇ>J7kДǙSHADE ƍƐƻǥ<11kǙ͒<8kRUNNING җ>11hѴؙӴ<187f˗֡Ɠ=93WgUGGAGE>2I7CfMULTIMAP=7VGfϫԾ֪ʋ<103fǮȥǥ>JPjȹǥ<1gUTER JOIN>G6fƲ=14q ʢ>703rƿơ>rǐơ<2fɕOMISSION Ɠ>228gɶƆ<2GOq ʒƖƵ>1IRrƀƗƊƋ<1FWwƋ<26wƊƋ>22lƯƆ>1SIlƗƆ<1TKx ƀƋ<6ĝƊƋ>1F9lϬƆ<1DXlǸƆ>2KWOlǡƆ=8KKlԊƆ<1X3mӐƆ>1UEfS-SHAPED BAG ҍ<N3gוʋ<ZEhVEN ɛǥ>JHgГU Ɠ>1P8hNGLE ǆƕ<2RYgPEECH ͛>2KSVgΫƓ=2Jt ʢ>6YUuƿʔ>uǐʔ<2uƀƗƋ>245z֥<2S2zƋ>2RZzTICK ̎ʜʔ<XYġ̾ʔ<2zǩ<2gղƓ>VQf̃<28VgHIRD ƨƐƦǼ>2LGDhOUGHT ͛<15Hhѕɛǥ=7F1lʈǥ<3gORTOISE ɈƓ>22XgԜƓ<EJhѮ̞ƊȊ<U2lаǮȹǥ>2JZ0fƊ̄ƀ֥=940pOX ɮ<220fƨɰƓ>2FPmϚƓ<1AJlɬƓ>1AQlƲ<1APlɁƓ>1ASlȣɈƓ<2gIGGLY ӄ<18GgRITING ͹>2IT1e-FACING خETERNITY Ə=13ImFIST>2QOCmSVASTI Ə=34Mx ƀʃ>1fHANDED ֔ҝ>4JXfƦȚƓ<QLoѥȚƓ>1CIoƗȚǆƕ=4Ro֙Ӌ>2QU9fϴƨƔƆ=7U2gIDE ҴʫƆ>",
  "B2fTO-RIGHT EMBEDDING<1SFoѯ>1Noƕ<2GoOVERRIDE>UeȢƆ>9Up ǈʿƫTO>1X5wʷʿƫTO<8ĞʺǄ>8wȖƔƆ<EGwʺǄ>1BrѴǐƍƿǮȥǥ>2K3LqȻȊ=6N8y ɊƯǺ>1H6qƣƔƆ<1G9qʒǿ>1IOyͧ>2yX>CJrO Ȋ<1UIw ƣƔǦɊȊ<17uͲǺ>1GJqƀȿؑ>EYxȔƊƋ<1TQvǁƞ>2KUXvơ=6NDvȷǠƞ>2KWUwOOP=6NFvǙǠƞ>2KWOvΥȓ>43vƟƇ=85IvƖǁƞ>2JEXěǠƞ<Gwʹ=6MYvȓ>7z ƀƗƊƋ>1W7ğƊƋ<1wIP ɒ<15zΉ>vƊƋ<1SQpշ>1EPkԧ˝ƨƆ>2JKElͲƆ=8HXqȴƨƆ>3MlOTTOM-SHADED ƨƆ>2J2VkɫƆ<2Sk˨Ɔ=6OWlȌƆ<Gw ȻȊ>1F9xƀƋ<1FDĜƊƋ>1F8wշ>OrˏƆ<Fk̓Ɔ>2JHJlզ˝ƨƆ>39k͹>G7mӷƣƔˀ=6OBsƀǎǱǈƔɄƀǎʕ>1I3ġ̅Ȃ̊>3ġȻȊ<DġɊȊ<8ĠϜ<1I1ĜʨǈƾɄƀǎʕ>1ICĦͼ̊>7ĥƔɄƀǎUP<4ğȻȊ<CğɊȊ<8ĞϜ<1HYlѦƆ>2KXZqɫƆ<4kՒƨƆ>2RkϬƆ=6PPk̥ʂ<1IkʶƆ>1VHkԞƨƆ>2J4WlOCKET<FUkǸƆ>DFlѹƆ<OnIGGLE Ɔ=6OSk̾ϴƨƆ>2KZPlШƞ<IsʪƆ=8KGğ ƣƔǡƆ>VĠɊȊ<GĠƀΐʁ>2J07ĥƗƒƋ=8L6ĬƊƋ<ĥǝʁ>2J01ĥȂўɒ=8MEĮΉ<2ĥǙʁ>2IYNĥϪʁ<4ĥ́ǝʁ>FĚ˨Ɔ=8KQĚ̥ʂ>PnѓƆ<1WQrˏƆ>1F7lˢѬƆ<1GWnʪǦȻȊ>1W7ěƀƗƊƋ<1Ġȓ>5Ĥ ƀƗƊƋ>1ĪƊƋ<1ġШΏ>4VĠƊƋ<54vɣˏƆ>2kԊƆ<1WBlӐƆ>21v ΊǠƞ>2KZ1cG>80cMON<19McO=7KCdPARD>2J7DcPCHA ȏƙK=5KDxANG>7wL<6wM<1wN>1xYIN-DO>3wP<3wR>wT>hƥƬ>Knǉ<3oȐ<1nǊ>4nǛ<8nƪ>5oIX<1nƤ<3oWO<1nǚ<2hƃA<ToBA<GpLA>oCA<EpHA>oDA>4pDA>1UpZA<1IoFA<8pLA>oGA<FpLA>oHA>OpLA>oJA<MoKA<8pHA>1pLA<1oLA>QoMA<7pLA>oNA<9pGA<8pYA>3oPA>4pHA>1pLA<1oRA>BoSA>4pHA>oTA<NpHA>pSA>BqHA>pTA>1GqHA>oVA<1BoWA>2oYA<8hǯCER-WA>YtNYET THYOOM TA-ROL<1tTA-ROL<1uSHOOK>3z CER-WA<1hƙɹ<7mRAN<1iͩƃRA<HyYA<1hƷƙAA>1sE>5sI<5sO>tO>sU>tU>cЬǈ̀ƫǈǒ>2U7qȮǈ̀˼>5qƾƆ<7VqSIMILAR ǈǒ>7Syʵ˼<2rՑƫǈȮǈɼ˼>5lѴʇͭ<Ao͓ʇƫTO<2kԫʇƫTO<1LRvʐTO>3HkʊBY ւ>1J3z ǈɼ˼>1kƫɊʵǒ<1JIkʵͭ>1IInƫTO<1LTqʐTO>Dnǒ>3nɼƫTO>1L2ĝ ƀƽƅ>3Ĭ Ʃ>1ħʖ<4lVER ƫTO<1LLkƏ=1Okƀǟʖ>8CCpɑ<1IBpǗǴƅ>1ICcVEL SLIDER>2IAMbF=AbIBRA>7K3cGATURE Ƞևƭ>2JOJdHT Αƕ<3EgʯȨǂ>CIgɖǲƯȩ>DlȨǂ<Qh͎ǲƯCUSP=8NGzȩ>2IUVg˩Ⱥ<Yg",
  "ƜȣɈɯƭ=7SIgRAIL>2JH1hɶȣɈɯƭ=7SJg˯>2JP1hHADE=7F5hԔȨǂ>2K2RgƶǲƯȩ>AhѢǲƯȩ>HgƊȊ=7RSgƨǋ>2JP1fNING=7IFj MOOD>2JMYo ͛<1cMBU ƥƬ=4ZYmǉ<3nȐ<1mǊ>4mǛ<8mƪ>5nIX<1mƤ<3nWO<1mǚ<2gǬƕ<2gƃBA<1EoHA>nCA<DoHA>nDA>5oHA>nGA<BoHA>oYAN>OnHA<1nJA<KoHA>nKA<8oHA>nLA>KnMA<3nNA<5oGA<AnPA>AoHA>nRA>4nSA>4oHA<2oSA>nTA<FoHA>oRA>HnWA<6nYA<3pN<BgǗƕ>1MgƙKEMPHRENG<BlLOO>5lMUKPHRENG<7lSA-I>1hȸƃƸ<9tKA<2tLA>7tMA<2tNA<2uGA<3tPA>3tRA>1tTA<4hͩƃRA<9xWA>xYA<2gƷƙA<9sI>3sU>1rE>sE<4rI<2rO>6sO<3rU<3l-CARRIER LETTER<YdITED LIABILITY Ə>53Ic׹י=AfINTEGRATION ʇINCLUDING ̽POLE>8AXrƀգPATH ԥPOLE<2wςPATH ԥPOLE>fǰ<1YJfβ=Bp SET>3IeAR A ƙA028B>1FO0p100-102>17q20B>2q31C>4p301>5r2>r3>r4>r5>r6>r7>r8>r9A>sB>sC>q10>r1>r2>r3A>sB>sC>r4>r5>r6>r7>r8>r9>q20>r1>r2>r3>r4>r5>r6>r7>r8>r9>q30>r1>r2>r3>r4>r5>r6>r7>r8>r9>q40>r1>r2>r3>r4>r5>r6>r7>r8>r9>q50>r1>r2>r3>r4>r5>r6>r7>r8>r9>q60>r1>r2>r3>r4>r5>r6>r7>r8>r9>q70>r1>p400-VAS>r1-VAS>r2-VAS>r3-VAS>r4-VAS>r5-VAS>r6-VAS>r7-VAS>r8-VAS>r9-VAS>q10-VAS>r1-VAS>r2-VAS>r3-VAS>r4-VAS>r5-VAS>r6-VAS>r7-VAS>r8-VAS>p501>r2>r3>r4>r5>r6>r8>r9>q10>r1>r2>r3>r5>r6>q20>r1>r3>r4>r5>r6>r7>r8>r9>q30>r1>r2>r4>r5>r6>r7>r8>r9>q40>r1>r2>r5>r7>r8>r9>q50>r1>r2>r3>r4>r5>r6>r7>r9>q63>r4>r5>r6>r8>r9>q70>r1>r2>r3>r4>r5>r6>r7>r8>r9>q80>r1>r2>r3>r4>r5>r6>r7>r8>r9>q91>r2>r4>r5>r6>r8>p600>r1>r2>r3>r4>r6>r8>r9>q10>r1>r2>r3>r4>r5>r6>r7>r8>r9>q20>r1>r2>r3>r4>r6>r7>r8>r9>q34>r7>r8>q40>r2>r3>r4>r5>r6>r8>r9>q51>r2>r3>r4>r5>r6>r7>r8>r9>q60>r1>r2>r3>r4>p701 A>9r2 B>r3 D>r4 E>r5 F>r6 H>r7 J>r8 K>r9 L>s-2 L2>t3 L3>t4 L4>t6 L6>q10 W>r1 X>r2 Y>r3 ͍>r4 ABB>",
  "r5 BB>r7 DD>q26 EYYY>q32 JE>p800>Ar1>r2>r3>r4>r5>r6>r7>pB001<9Zs2>s3>s4>s5>s6>s7>s8>s9>r10>s1>s3>s6>s7>r20>s1>tF>tM>s2>tF>tM>s3>tM>s4>s6>s7>s8>s9>1r30>s1>s4>s7>s8>s9>r40>s1>s4>s5>s6>s7>s8>s9>r50>s1>s3>s4>s5>s6>s7>s8>s9>r60>s1>s5>s6>s7>s9>r70>s3>s4>s6>s7>s8>s9>r80>s1>s2>s5>s6>s7>q118>1r20>s2>1s3>r31A>tB>r64>1r71>r80>s8>r91>hB IDEOGRAM B100 җ<15Gv2 WOMAN>v4 DEER>v5 EQUID>wF MARE>wM STALLION>v6F EWE>wM RAM>v7F SHE-GOAT>wM HE-GOAT>v8F SOW>wM BOAR>v9F COW>wM BULL>u20 WHEAT>v1 BARLEY>v2 OLIVE>v3 SPICE>v5 CYPERUS>u30 OIL>2v1 WINE>v2>u40 BRONZE>2v1 GOLD>v2>v5 WOOL>v6>u50>v1 Չ>v2>v3>v4>v7>1v8>v9 CLOTH>u60>v1>v2 GARMENT>v3 ARMOUR>v4>v5>v6>v7>v8>v9>u70>v1>v2>v3 MONTH>v4>v6 ԁ>v7>v8>v9>u80>v1>v2>v3>v4>v5>v9>u90>v1 ע>t220 FOOTSTOOL>v5 BATHTUB>u30 SPEAR>v1 Ɔ>v2>v3 SWORD>v4>v6>u40 WHEELED CHARIOT>v1 CHARIOT>v2 CHARIOT FRAME>v3 WHEEL>v5>v6>v8>1v9>u51>v2>v3>v4 DART>v5>v6>v7>v8>v9>sVESSEL B155>Ě200>Ĝ1>Ĝ2>Ĝ3>Ĝ4>Ĝ5>Ĝ6>Ĝ7>Ĝ8>Ĝ9>ě10>Ĝ1>Ĝ2>Ĝ3>Ĝ4>Ĝ5>Ĝ6>Ĝ7>Ĝ8>Ĝ9>ě21>Ĝ2>Ĝ6>Ĝ7>Ĝ8>Ĝ9>ě50>Ě305>jMONOGRAM B127 KAPO<2Vv8 KANAKO>u33 AREPA>3v5 MERI>u56 TURO2>At247 DIPTE>19jˠB001 DA<5Pv2 RO>11v3 PA<Dv4 TE>Kv5 TO>1v6 NA<Sv7 DI<Iv8 A<7v9 SE>19u10 U<16v1 PO>Sv2 SO>Ev3 ME<Rv4 DO<Dv5 MO>Ev6 QA>Bv7 ZA>Ou20 ZO>2v1 QI<Qv3 MU<Dv4 NE>1v5 A2>11v6 RU<Kv7 RE<3v8 I<13v9 PU2>1Vu30 NI<17v1 SA>Hv2 QO<7v3 RA3>Yv6 JO<1Ov7 TI>12v8 E<1Fv9 PI>Uu40 WI>Ov1 SI<Av2 WO>Av3 A3>6v4 KE<1Dv5 DE<Av6 JE>4v8 NWA>1Lu50 PU<Zv1 DU<Pv2 NO>Iv3 RI>Dv4 WA>Cv5 NU<Qv7 JA<Jv8 SU>12v9 TA>u60 RA<Av1 O<11v2 PTE>1Vv5 JU<1Lv6 TA2>1Ov7 KI<1Mv8 RO2>1Kv9 TU<Ku70",
  " KO<10v1 DWE>1Cv2 PE<10v3 MI<9v4 ZE>12v5 WE<5v6 RA2>Fv7 KA<1Lv8 QE>Ku80 MA<Gv1 KU<1v5 AU>1Av7 TWE>9u90 DWO<8v1 Έ>8l֚B018>2t9>s22>s34>s47>t9>s56>s63>t4>s79>s82>t3>t6>t9>dK ƌ>1CC9eӀPAPERCLIPS>33cʾǑ>S9cPS<PReӽ<9QcRA Ə=6G4cSU ƃA>Q4PnE>mBA<VmCA>9nHA>mDA<8nZA>8mE>JnU>mFA<8mGA<JnHA>MmHA<7nHA>1mI>9mJA<PmKA<2nHA>mLA>8mMA<2mNA>nGA>4mO>DnE>3mPA<12nHA>mSA>FnHA>8mTA<NnHA>nǮMYA BO>11vCYA<1vJEU>2vNA<1vTI<4rNA PO>nSA<SoHA>mU>LnE>nH>mWA<CmXA<3mYA>4nHA>O8ZmZA<O98nHA<1fǯɂ>Qrǻǽ>cVRE TOURNOIS Ə<Q4PcZARD>2LEFbLAMA>AbOBSTER>4cCK<WCe ƀINK PEN<3eING-SHIFT Ǜ=Eoǚ>cGICAL ָ>6QFl ƀƽƅ>1M1tȔɺ>Cyǩ>1rƒ̊<4rƑؑ<2rǩ>4iOR<1MFk OVERLAPPING ָ̑>1M8lƀƽƅ<7sȔɺ>Fxǩ>qƒ̊<6qƑؑ<2cLLIPOP>2IA9cNG ˏȻƜMEMBER ȕƗɏ=8H2gIVISION<M2gRUM>2K7FfƜƐƆ=7W7qƗƆ>2k̃<SjȢƆ>Mu ȻȊ>5pƗƆ<3ě ȻȊ>4pSQUIGGLE Ɔ>MTfƐ̃<NQkȢƆ>Ov ȻȊ>5qƗƆ<3Ĝ ȻȊ>4qSQUIGGLE Ɔ>cTION BOTTLE>2K1GdUS>5EcUDLY CRYING Ǒ<WAcԆHOTEL<G4fLETTER>4IcW ǂ=6DQeBATTERY>2LP8fRIGHTNESS ƌ<146eƗPRIME ǆƕ=9I7eӘ<D4k ƀɑ>eɮ=2NdחBLADE ή>7MRgɖɛǥ<AMgƻǥ<1lƵ>2KlДƨƵ<6lǙ͒>2KS3gƜBALLPOINT PEN<16TmLOCK ǌƿƑƜɊƿț>14HĵƩ>ĚǐɠɊƿƑƩ>GİƩ>1ĪǐƑƩ<4ĠƜɊƿț<CĮƑƩ>EĨǐƑƩ<2ĠƑƜɊƿț<FĵƑƩ>IĵƩ<IlCRAYON<14IlFOUNTAIN PEN<2lPAINTBRUSH>mENCIL<3l˚ψARC=7HBlςʫƆ>NZlƧ<N9rаǙ͒>2KROgǮȥǥ=7EPkȹǥ>gƐֿǌƿɠɊƿƑƩ>2KSKīǐƑƩ>1ıƩ>1ġƜɊƿƑƩ<3ĩǐț<3įƑƩ>4ġƑƜɊǐț<7ĶƑƩ>2ĶƩ<2ěǐƑƜɊǐț<3ĶƩ>mɰƀɑ=7V7mҿƨǋ<3OmPENCIL<1Tm˚ψARC<8GmςнƆ>NZnHADOWED ƨƵ>2IV3ěǋ=7RLmƧ<9EsаǙ͒>2KRIg̗ɛǥ=7EVgƶɛǥ<4mʈǥ>2hіǮȹǥ>2KTKcZENGE=7GQh ҾBY ƒRULE>ETbRE<1IUcI>1NcM<2GcO>UbUGGAGE>2LL1cNGS>5PbYCIAN ƃA<1D1DpN>OoB<NpH>oD>1oE<4pN>OoG<MoH>MoI<LoJ>3oK>pK>8oL<7oM>pM>1oN<1pN>1oP>1oQ<7oR>8oS>oT>pH<EpT>EoU<6oW<BoX>KoZ<Kc",
  "DIAN ƃA>1AVpN>KoB<KoC>NoD<MoE>pN>HoF<5oG<FoI>3oK>1oL>pY>DoM<DoN>pN>CoO<CoQ>5oR<5oS>5pS<5oT>pT>4oU<4oV<BoY>1hȼƕ>NcɜǑ>1BDXaǅ=4VcGE>2RS9dIC WAND>4QdNET<42cHAJANI ǍƏ<19XAjƃA<10qBA>PrHA>qCA<IrHA>qDA>ArDA<5sHA>rHA>4qE<JqGA>3rHA>qHA>OqI<WqJA>9rHA>qKA<7rHA>qLA>NqMA<2qNA<5rNA<5rYA<5qO<9qPA>JrHA>qRA>3rRA>4qSA<2qTA<DrHA>rTA<6sHA>qU<DqVA>SkɅSHRI>6jɆƕ<1kλɹ<2dJONG TILE AUTUMN>17ZOnԦ>2pMBOO<7nCHRYSANTHEMUM>nɱԌ<11oɶȕ˥>Mwɤ<9x̷>Hnɖȕ˥<Cvɤ<9w̷>Ho͎ȕ˥<Avɤ<9w̷>HnGREEN р<Nn֕>10nМȕ˥<Ivɤ<9w̷>HoORTH Ԍ<UnǮȕ˥>Cuɤ<9v̷>HoRCHID>9nPLUM<1nϯр<Un̗ȕ˥>Hwɤ<9x̷>HoԔȕ˥<Auɤ<9v̷>HoOUTH Ԍ<ToPRING>10oUMMER>nƶȕ˥<Lwɤ<9x̷>Hoˢȕ˥<Auɤ<9v̷>Hn̘Ԍ<OoӐр>3oINTER>YcKASAR ANGKA<15BRiͷȕ˱>5iƃA<7pBA<DpCA>4pDA<2pGA<6pJA>8pKA<ApLA>DpMA<9pNA>2qGA<6qYA>8pPA<8pRA>9pSA>2pTA<ApVA>8pYA<3iPASSIMBANG>AiƷƙE<2tI<2tO>2tU<2cLAYALAM AU ɔƕ=2MVkDATE ƕ>Xl˿Ƭ<Bqǉ<3rȐ<1qǊ>4qǛ<8qƪ>5rIX<1qƤ<3rWO<1qǚ<2kȶǮс>GxFIFTH<PyORTIETH<5xʽ>Qxο<Sx˭>Qxҡ>2xTENTH<QyWENTIETH<1tƶד<1z͐>Qzα>2z؟<RkƃA<2GsA>sI>9s˅II>26sU<23rBA>NsHA>rCA<JsHA>tILLU K>2RyL<2zL>ĚL<14yM<2yN>12zN<1yRR>1yY<13rDA<1BsDA<5tHA>sHA>4ṣREPH>12rE<1SsE>rGA>7sHA>rHA>WrI<1EsI>rJA>JsHA>rKA<8sHA>rLA>RsLA>tLA>rMA<6rNA<6sGA<FsNA>9tNA>5sYA<BrO<CsO>rPA>MsHA>rRA>4sRA>rSA>6sHA<2sSA>rTA<JsHA>sTA<6tHA>tTA>PrU<1DsU>rVA>16sEDIC Ƹ<1DsȳL>7ĚL>2CzR<2EĚR>2CrYA<1DkƹǮƚ>1TvƎ>rʚ<2kƙƸ<32qɾ>1Mpǃ<1OqIRCULAR Ǥ>1MqϏ͚ƅ<1OpPARA>26pƊ̄Ǥ<KqIRAMA>Hrɟ<22kƷƙAA>1MwI>9wU>3vE<6wE>vI<8wI>vO>9wO>vU<AwU>vǪL>VĞL>ĝR<WĞR>dE ƍѩƏ>50GfƏ<2RfƀȪƍѳƍѩƏ>2SrƏ<1dTESE Ⱥ>3DcMMOTH>2K5EcN<117d ƍWOMAN Ιѫ>2eDANCING>7Ie̎BUSINESS SUIT LEVITATING<6hTUXEDO>QOeƀGUA PI MAO<XVjTURBA",
  "N>dҧƏ=6GSdDAIC AFFRICATION ƕ<4TFiАƕ>1iƃAB<QqD>1qG<1qH>1qIN>JqK<ErSA<1qL>1qM>qN>qP>2qQ>1qR>qS<5rH>5rZ<3qT>3rT<DqZ<2pDUSHENNA>FpHALQA<MpIN>EqT<8pKAD>FpUSHENNA<Iiǜ>OiVOCALIZATION ƕ<4dGO>2Q6QdICHAEAN ǍǴƅ<1B48ĝƇ>lƃAAYIN<CtLEPH<Qtֲ>Os̱<OtHETH>s̉>2tHAMEDH>EsFE>7sGHIMEL<OtIMEL<1sHE>2uTH>6sJAYIN<2tHAYIN>s͇>3tHAPH>1sʅ>sи>2s̢>sPE>3sQHOPH>4tOPH<2sϰ>2s˛<4uΣ<5tζ>9tSHIN>s҅>tԽ<MtHAMEDH>6sͪ<EsXAPH>9tOPH>Dsͫ<Gs̜<6tHAYIN>lƹǉ>XsǛ<1v ƚ>3sʚ<2tȽ>lǯɑ>5Ě Ίɑ<1zȔƽΊɑ<1xԿ<1xȟ̴>4xȩ<6xȉʃ>4lƙUD<19dS SHOE>1A51dTELPIECE CLOCK>7LdUAL ا>UKcP ȗʼLIGHTHOUSE=7OVdLE ̐>2IXDcRCHEN ̌ƕ<16FLiƃ-A>NpA>6pBA<FpCA<AqHA>pDA>4qZA>7pGA<GpHA>PpJA<MpKA<6qHA>pLA>NpMA<ApNA<4qGA<8qYA>3pPA>4qHA>pRA>ApSA>2qHA<1pTA<IqHA>qSA>6rHA>pWA>1pYA>3pZA<2qHA<1iǴΰ<LiƙƸ>1Vnǃ>jͩƃA<7zBA<FzCA<AĚHA>zDA>4ĚZA>7zGA<GzHA>PzJA<MzKA<6ĚHA>zLA>NzMA<AzNA<4ĚGA<8ĚYA>3zPA>4ĚHA>zRA>AzSA>2ĚHA<1zTA<IĚHA>ĚSA>6ěHA>zWA>1zYA>3zZA<2ĚHA<1iƷƙAA>9tE>2tI<2tO>2tU<2dRIAGE ƌ=7N1dTIAL ARTS UNIFORM>2K65cSARAM GONDI ƥƬ<17G3uǉ<3vȐ<1uǊ>4uǛ<8uƪ>5vIX<1uƤ<3vWO<1uǚ<2oƃA<28wA>wI>6wU>2vBA>MwHA>vCA<IwHA>vDA>AwDA<5xHA>wHA>4vE<OvGA>7wHA>vHA>SvI<16wI>vJA>FwHA>wNYA>QvKA<ZwHA>wSSA>WvLA<7wLA>5vMA<9vNA<5wGA<FwNA>9wYA<5vO<CvPA>MwHA>vRA>4vSA>4wHA<2wSA>vTA<FwHA>wRA>JwTA<QxHA>vU<JwU>vVA>YvYA<3oRA-KARA>XpEPHA<1oƙƸ<6tCANDRA>2tՅ>tɹ<2t͗<1oǤ>3pΨƙAA<KĚI>AĚU>2zE<5zI<8ĚI>zO>9zU<9ĚU>zǪR>dCULINE ORDINAL ˕=56dK WORK ƌ>2Q5UdU ƕ=9J0cTE DRINK>2IDOdHEMATICAL ΐƢA<7GPě̹>IVĚB<IVěε>IVĚC<IVěHI>JFĚD<JFěι>IVěק>7YĚE<QUěȯ>IVěTA>1ĚF<IXĚG>ěΌ>IRĚH<IRĚI>ěҬ>IVĚJ<IVĚK>ěЃ>IUĚL<IUěЀ>IUĚM<IUěU>IUĚN<IUěU>IUĚO<IUě̺>J5Ĝ̫<AĚP<IVěHI>J1ěI<6",
  "ěSI>7ĚQ<J3ĚR>ěHO>IUĚS<IUěΜ>IVĚT<IVěAU>IVě͝<Cğ ƌ>9ĚU<ITěȯ>IVĚV<IVĚW>ĚX>ěI>ILĚY<ILĚZ>ěε>IBsƥƬ>88yǉ<3zȐ<1yǊ>4yǛ<8yƪ>5zIX<1yƤ<3zWO<1yǚ<2s˓ƌ<6QsFRAKTUR ƢA<A8ĢB>ĢC>ĢD>ĢE>ĢF>ĢG>ĢH>ĢI>ĢJ>ĢK>ĢL>ĢM>ĢN>ĢO>ĢP>ĢQ>ĢR>ĢS>ĢT>ĢU>ĢV>ĢW>ĢX>ĢY>ĢZ>ĚƖA>ĠB>ĠC>ĠD>ĠE>ĠF>ĠG>ĠH>ĠI>ĠJ>ĠK>ĠL>ĠM>ĠN>ĠO>ĠP>ĠQ>ĠR>ĠS>ĠT>ĠU>ĠV>ĠW>ĠX>ĠY>ĠZ>s΅ƢA<8NĢ̹>J7ġB<J7Ģε>J7ġC<J7ĢHI>JRġD<JRĢι>J7ġE<J7Ģȯ>J7ĢTA>1ġF<J9ġG>ĢΌ>J3ġH<J3ġI>ĢҬ>J7ġJ<J7ġK>ĢЃ>J6ġL<J6ĢЀ>J6ġM<J6ĢU>J6ġN<J6ĢU>J6ġO<J6Ģ̺>JHģ̫<AġP<J7ĢHI>JDĢI<6ĢSI>7ġQ<JFġR>ĢHO>J6ġS<J6ĢΜ>J7ġT<J7ĢAU>J7Ģ͝<CĦ ƌ>9ġU<J5Ģȯ>J7ġV<J7ġW>ġX>ĢI>IXġY<IXġZ>Ģε>INz˓ƌ>1Azщƌ>1zӢ<TzΩʝ>PĚӏƌ>3ĚI ƌ>1z؋ƌ<1zƖA<K2Ġ̹>J7ğB<J7Ġε>J7ğC<J7ĠHI>JRğD<JRĠι>J7ğE<J7Ġȯ>J7ĠTA>1ğF<J9ĠΝҀ>JJğG<JJĠΌ>J3ğH<J3ğI>ĠҬ>J7ğJ<J7ğK>ĠЃ>J6ğL<J6ĠЀ>J6ğM<J6ĠU>J6ğN<J6ĠU>J6ğO<J6Ġ̺>JHġ̫<AğP<J7ĠHI>JDĠI<6ĠSI>7ğQ<JFğR>ĠHO>J6ğS<J6ĠΜ>J7ğT<J7ĠAU>J7Ġ͝<CğU<IVĠȯ>J7ğV<J7ğW>ğX>ĠI>IXğY<IXğZ>Ġε>INzϵƌ>Lsщƌ<37sӢ<TsΩʝ>Ptӏƌ>3tI ƌ>1s؋ƌ<1s˰ƢA<EOġB>ġC>ġD>ġE>ġF>ġG>ġH>ġI>ġJ>ġK>ġL>ġM>ġN>ġO>ġP>ġQ>ġR>ġS>ġT>ġU>ġV>ġW>ġX>ġY>ġZ>zƖA>ğB>ğC>ğD>ğE>ğF>ğG>ğH>ğI>ğJ>ğK>ğL>ğM>ğN>ğO>ğP>ğQ>ğR>ğS>ğT>ğU>ğV>ğW>ğX>ğY>ğZ>tȸA<6Hz̹>IVyB<IVzε>IVyC<IVzHI>JFyD<JFzι>IVzק>79yE<Q5zȯ>IVzTA>1yF<IXzΝҀ>J7yG<J7zΌ>IRyH<IRyI>zҬ>IVyJ<IVyK>zЃ>IUyL<IUzЀ>IUyM<IUzU>IUyN<IUzU>IUyO<IUz̺>J5Ě̫<AyP<IVzHI>J1zI<6zSI>7yQ<J3yR>zHO>IUyS<IUzΜ>IVyT<IVzAU>IVz͝<CyU<IJzȯ>IVyV<IVyW>yX>zI>ILyY<ILyZ>zε>IBsϵƌ>LnDOUBLE-STRUCK ƢA<BPģB>ģD>1ģE>ģF>ģG>ģI>1ģJ>ģK>ģL>ģM>ģO>1ģS>3ģT>ģU>ģV>ģW>ģX>ģY>ěƥƬ>I7ġǉ<3ĢȐ<1ġǊ>4ġǛ<8ġƪ>5ĢIX<1ġƤ<3ĢWO<1ġǚ<2ěƖA<HYġB>ġC>ġD>ġE>ġF>ġG>ġH>ġI>ġJ>ġK>ġL>ġM>ġN>ġO>ġP>ġQ>ġR>ġS>ġT>ġU>ġV>ġW>ġX>ġY>ġZ>nЌː=7V1oRAKT",
  "UR ƢA>2CS6ĝB>ĝD>1ĝE>ĝF>ĝG>ĝJ>2ĝK>ĝL>ĝM>ĝN>ĝO>ĝP>ĝQ>ĝS>1ĝT>ĝU>ĝV>ĝW>ĝX>ĝY>vƖA>1ěB>ěC>ěD>ěE>ěF>ěG>ěH>ěI>ěJ>ěK>ěL>ěM>ěN>ěO>ěP>ěQ>ěR>ěS>ěT>ěU>ěV>ěW>ěX>ěY>ěZ>n΅ƢA<77ĝ̹>J1ĜB<J1ĝε>J1ĜC<J1ĝHI>JLĜD<JLĝι>J1ĜE<J1ĝȯ>J1ĝTA>1ĜF<J3ĜG>ĝΌ>IXĜH<IXĜI>ĝҬ>J1ĜJ<J1ĜK>ĝЃ>J0ĜL<J0ĝЀ>J0ĜM<J0ĝU>J0ĜN<J0ĝU>J0ĜO<J0ĝ̺>JBĞ̫<AĜP<J1ĝHI>J7ĝI<6ĝSI>7ĜQ<J9ĜR>ĝHO>J0ĜS<J0ĝΜ>J1ĜT<J1ĝAU>J1ĝ͝<Cġ ƌ>9ĜU<IZĝȯ>J1ĜV<J1ĜW>ĜX>ĝI>IRĜY<IRĜZ>ĝε>IHu˓ƌ>1Auщƌ>1uӢ<TuΩʝ>Pvӏƌ>3vI ƌ>1u؋ƌ<1uƖA<JWě̹>J1ĚB<J1ěε>J1ĚC<J1ěHI>JLĚD<JLěι>J1ě̤I<2JĢJ>ĚE<GJěȯ>J1ěTA>1ĚF<J3ěΝҀ>JDĚG<JDěΌ>IXĚI<IWěҬ>J1ĚJ<J1ĚK>ěЃ>J0ĚL<J0ěЀ>J0ĚM<J0ěU>J0ĚN<J0ěU>J0ĚO<J0ě̺>JBĜ̫<AĚP<J1ěHI>J7ěI<6ěSI>7ĚQ<J9ĚR>ěHO>J0ĚS<J0ěΜ>J1ĚT<J1ěAU>J1ě͝<CĚU<IPěȯ>J1ĚV<J1ĚW>ĚX>ěI>IRĚY<IRĚZ>ěε>IHuϵƌ>LnƜȚƓ=7VSsƗȚƓ>1sכƲ>3sƨɁƓ<8yȣɈƓ>5nMONOSPACE ƢA>2D1FğB>ğC>ğD>ğE>ğF>ğG>ğH>ğI>ğJ>ğK>ğL>ğM>ğN>ğO>ğP>ğQ>ğR>ğS>ğT>ğU>ğV>ğW>ğX>ğY>ğZ>xƥƬ>ACĝǉ<3ĞȐ<1ĝǊ>4ĝǛ<8ĝƪ>5ĞIX<1ĝƤ<3ĞWO<1ĝǚ<2xƖA<A4ĝB>ĝC>ĝD>ĝE>ĝF>ĝG>ĝH>ĝI>ĝJ>ĝK>ĝL>ĝM>ĝN>ĝO>ĝP>ĝQ>ĝR>ĝS>ĝT>ĝU>ĝV>ĝW>ĝX>ĝY>ĝZ>nƐȚƓ=7VTtƗȚƓ>1tכƲ>3tƨɁƓ<8zȣɈƓ>5pSING ː<YnǸΐƢA>2CY0Ħ̹>APĥB<APĦε>APĥC<APĦHI>B9ĥD<B9Ħι>APĥE<APĦȯ>APĦTA>1ĥF<ARĥG>ĦΌ>ALĥH<ALĥI>ĦҬ>APĥJ<APĥK>ĦЃ>AOĥL<AOĦЀ>AOĥM<AOĦU>AOĥN<AOĦU>AOĥO<AOĦ̺>AZħ̫<AĥP<APĦHI>AVĦI<6ĦSI>7ĥQ<AXĥR>ĦHO>AOĥS<AOĦΜ>APĥT<APĦAU>APĦ͝<CĪ ƌ>9ĥU<ANĦȯ>APĥV<APĥW>ĥX>ĦI>AFĥY<AFĥZ>Ħε>A5ĝƥƬ>48ģǉ<3ĤȐ<1ģǊ>4ģǛ<8ģƪ>5ĤIX<1ģƤ<3ĤWO<1ģǚ<2ĝ˓ƌ<2Qĝ΅ƢA<9Aĭ̹>9FĬB<9Fĭε>9FĬC<9FĭHI>9ZĬD<9Zĭι>9FĬE<9Fĭȯ>9FĭTA>1ĬF<9HĬG>ĭΌ>9BĬH<9BĬI>ĭҬ>9FĬJ<9FĬK>ĭЃ>9EĬL<9EĭЀ>9EĬM<9EĭU>9EĬN<9EĭU>9EĬO<9Eĭ̺>9PĮ̫<AĬP<9FĭHI>9LĭI<6ĭSI>7ĬQ<9NĬR>ĭHO>9EĬS<9EĭΜ>9FĬT<9FĭAU>9Fĭ͝<Cı ƌ>9ĬU<9Dĭȯ>9FĬV<9FĬW>Ĭ",
  "X>ĭI>95ĬY<95ĬZ>ĭε>8VĤ˓ƌ>1AĤщƌ>1ĤӢ<TĤΩʝ>Pĥӏƌ>3ĥI ƌ>1Ĥ؋ƌ<1ĤƖA<AAī̹>9FĪB<9Fīε>9FĪC<9FīHI>9ZĪD<9Zīι>9FĪE<9Fīȯ>9FīTA>1ĪF<9HīΝҀ>9RĪG<9RīΌ>9BĪH<9BĪI>īҬ>9FĪJ<9FĪK>īЃ>9EĪL<9EīЀ>9EĪM<9EīU>9EĪN<9EīU>9EĪO<9Eī̺>9PĬ̫<AĪP<9FīHI>9LīI<6īSI>7ĪQ<9NĪR>īHO>9EĪS<9EīΜ>9FĪT<9FīAU>9Fī͝<CĪU<93īȯ>9FĪV<9FĪW>ĪX>īI>95ĪY<95ĪZ>īε>8VĤϵƌ>Lĝщƌ<1LĝӢ<TĝΩʝ>PĞӏƌ>3ĞI ƌ>1ĝ؋ƌ<1ĝƖA<BKĤ̹>APģB<APĤε>APģC<APĤHI>B9ģD<B9Ĥι>APģE<APĤȯ>APĤTA>1ģF<ARĤΝҀ>B1ģG<B1ĤΌ>ALģH<ALģI>ĤҬ>APģJ<APģK>ĤЃ>AOģL<AOĤЀ>AOģM<AOĤU>AOģN<AOĤU>AOģO<AOĤ̺>AZĥ̫<AģP<APĤHI>AVĤI<6ĤSI>7ģQ<AXģR>ĤHO>AOģS<AOĤΜ>APģT<APĤAU>APĤ͝<CģU<ADĤȯ>APģV<APģW>ģX>ĤI>AFģY<AFģZ>Ĥε>A5ĝϵƌ>LyƢA<DNĠB>ĠC>ĠD>ĠE>ĠF>ĠG>ĠH>ĠI>ĠJ>ĠK>ĠL>ĠM>ĠN>ĠO>ĠP>ĠQ>ĠR>ĠS>ĠT>ĠU>ĠV>ĠW>ĠX>ĠY>ĠZ>yƥƬ>FKĞǉ<3ğȐ<1ĞǊ>4ĞǛ<8Ğƪ>5ğIX<1ĞƤ<3ğWO<1Ğǚ<2y΅ƢA<D6ħB>ħC>ħD>ħE>ħF>ħG>ħH>ħI>ħJ>ħK>ħL>ħM>ħN>ħO>ħP>ħQ>ħR>ħS>ħT>ħU>ħV>ħW>ħX>ħY>ħZ>ğƖA>ĥB>ĥC>ĥD>ĥE>ĥF>ĥG>ĥH>ĥI>ĥJ>ĥK>ĥL>ĥM>ĥN>ĥO>ĥP>ĥQ>ĥR>ĥS>ĥT>ĥU>ĥV>ĥW>ĥX>ĥY>ĥZ>yƖA<3LĞB>ĞC>ĞD>ĞE>ĞF>ĞG>ĞH>ĞI>ĞJ>ĞK>ĞL>ĞM>ĞN>ĞO>ĞP>ĞQ>ĞR>ĞS>ĞT>ĞU>ĞV>ĞW>ĞX>ĞY>ĞZ>oCRIPT ƢA<8NĜC>1ĜD>ĜG>2ĜJ>2ĜK>ĜN>2ĜO>ĜP>ĜQ>ĜS>1ĜT>ĜU>ĜV>ĜW>ĜX>ĜY>ĜZ>uƖA>ĚB>ĚC>ĚD>ĚF>1ĚH>1ĚI>ĚJ>ĚK>ĚL>ĚM>ĚN>ĚP>1ĚQ>ĚR>ĚS>ĚT>ĚU>ĚV>ĚW>ĚX>ĚY>ĚZ>cXIMIZE>6IUcYAN ̔Ƭ<6WEtԻ>9pΡ<7o͂>3qVE<ApȐ<1sτ>9oǊ<5sτ>9oǛ<Ioƪ>5tτ>9pIX<Brτ>9oʚ<6p΄>2qӵ<Apδ>8qO<Aoǚ<2bEASURED Ё=6QPo РǷ>1H5pƀȠARM ENDING ̎ǦƦǱƍǷ>FĿƩ<1ĶƜƍʕ>4ĿUP<2ĶƐƍʕ>ŀUP<2ĶʨƍǷ<3ĽƩ<1jBY<1FUjƐȚƀɑ>1FIdT ʾBONE>2IEWcCHANICAL ARM>19JlҖ>cDEFAIDRIN ƢƃA<RJMĜI>GĜTIU<QěB>BěC>ěD>7ěE<AěF<5ěG<1ěH>CĜP<ěI<BěJ>2ěK<2ĜP<6ěL>DěM<KěN>QĜG<4ĜY<ěO>5ĜE<3ěP<JěQ>DěR>6ěS<RěT>6ěU>9ěV<GěW>ěX>KěY>6ĜU<CěZ<EnOMMA>29mƥƬ<Fsǉ<3tȐ<1sǊ>4sǛ",
  "<8v ȎƁ>Isƪ<DtIX<1sƤ<3x ȎƁ>ItWO<Kv ȎƁ>Isǚ<LmǬOH>Pmǻǽ<2mƹЊ<6uΡ<7t͂>3u՝<1tН>4tϖ<2uӖ<1tʚ<6u΄>2uδ<1mƖƃA<VĚI>GĚTIU<QzB>BzC>zD>7zE<AzF<5zG<1zH>CĚP<zI<BzJ>2zK<2ĚP<6zL>DzM<KzN>QĚG<4ĚY<zO>5ĚE<3zP<JzQ>DzR>6zS<RzT>6zU>9zV<GzW>zX>KzY>6ĚU<CzZ<En̿AIVA>1FdIEVAL ɂ=958jǬƕ>6jǗƕ>eUM ƯƵ<1IHiӧƨƵ>2JTLhʯǲƯȩ>20nȨǂ<IhɖȨǂ<CiLATTENED Ɯɻƭ=7SArƐɻƭ>i͎ǲƯȩ>2JQ1uʥȩ>1h˩Ⱥ<10hƜʭɯƭ=7SKmɻƭ<ClȬȚɯƭ>3hMATHEMATICAL ʸ<1E5hƐʭɯƭ>1EDnɻƭ<CmȬȚɯƭ>3h˯>2JP8iHADE=7F6iԔǲƯȩ>2K3ClȨǂ<LiȸƨƵ=7N0hƶǲƯȩ>2JV8vʥȩ>1hƊȊ=7RThƨƵ<4Vnǋ>2JTWcETEI MAYEK AHANG KHUDAM=XRLoNJI>oPUN IYEK>6YnCHEIKHAN<71tEI>6YnƥƬ>Ctǉ<3uȐ<1tǊ>4tǛ<8tƪ>5uIX<1tƤ<3uWO<1tǚ<2nƃATIYA<VuBA>3vHAM>4uѤ<6WwIL>6BuDDA<68wHA>vHOU>6PvIL<2uE<6VuGHOU>6VvOK<6uHUK<5uI>1v ͠>IuJHAM<FvIL>2uKHOU<EvOK<8x ͠>QuLAI<Px ͠>PuMIT<Px ͠>PuNA<Ow ͠>PvGOU<My ͠>NvNA<6XvYA<5uO<2uPA>6Aw ͠>PvHAM<EuRAI>3uSAM<JvHA<60vSA>uTHOU>67vIL<3x ͠>OvTA<70wHA>uUN>6GuWAI<3uة>oUM IYEK>VnˠЧƕ<6XnǤ>2oΨƙAAI<9ĚU>1zNAP>6TzU<6VyCHEINAP>6YyII<72zNAP>6WyNUNG>5yONAP<7ySOUNAP>3yUNAP>zU<70y͗>8yYENAP>6OnдЧƕ<6QcLON>1SURdTING Ǒ>1HZcMO<16RcNDE KIKAKUI ɥƹǕҤ<2DKĦS<3ğӠ>3ğTEENS<6ġN Ҥ>3ĢS<3ĠHOUSANDS>1oƥƬ<5uǉ<3vȐ<1uǊ>4uǛ<8uƪ>5vIX<1uƤ<3vWO<1oˠM001 KI<5KĚ2 KA>Ě3 KU>Ě4 WI>5Ě5 WA>Ě6 WU>Ě7 MIN>9Ě8 җ>Ě9 MUN>z10 BI>4Ě1 BA>Ě2 BU>Ě3 I>4Ě4 A>Ě5 U>Ě6 DI>PĚ7 DA>Ě8 DU>Ě9 SI<Iz20 SA>Ě1 SU>Ě2 TI>JĚ3 TA>Ě4 TU>Ě5 LI<GĚ6 LA>Ě7 LU>Ě8 JI>IĚ9 JA>z30 JU>Ě1 YI>5Ě2 YA>Ě3 YU>Ě4 FI>4Ě5 FA>Ě6 FU>Ě7 NIN>6Ě8 NAN>Ě9 ̢>z40 HEE>5Ě1 HA<2Ě2 HOO>3Ě3 NGGA>AĚ4 KPEE>15Ě5 WO<44Ě6 HUAN>2VĚ7 MBEE>VĚ8 KO<40Ě9 WVA>Bz50 PU>3FĚ1 PE>1Ě2 HEN<SĚ3 ζ<3Ě4 LOO<1IĚ5 TE>CĚ6 GBA>2MĚ7 NGON<TĚ8 NYAN>1IĚ",
  "9 MEN<4Qz60 NYON>4SĚ1 WVI<4ZĚ2 MBA>3MĚ3 JO<1VĚ4 NDO>2QĚ5 KEE<4XĚ6 PO>3YĚ7 NDOO>WĚ8 PI<13Ě9 TO<1Uz70 GBO>2PĚ1 GBOO<1Ě2 MBE<JĚ3 LE<2MĚ4 KPU>2UĚ5 FE<1VĚ6 KOO<2HĚ7 VO>55Ě8 FEE<2QĚ9 SO<15z80 YE>YĚ1 PEE>1JĚ2 NGGU<MĚ3 HEEI<AĚ4 LEE<1IĚ5 VE>3NĚ6 ȂNGGE<1PĚ7 HUN<DĚ8 FO<JĚ9 DEE<Vz90 NGGI>1HĚ1 TEE<1CĚ2 KPA>2GĚ3 GBEE>8Ě4 MON<41Ě5 KE<KĚ6 HE>2VĚ7 BE<25Ě8 NYEN>4JĚ9 PA<1Iy100 E<2VĚ1 FAN>1NĚ2 POO>1AĚ3 BOO<35Ě4 TOO>14Ě5 ȂMBOO>2BĚ6 ȂNGGOO<SĚ7 GBE>14Ě8 KPE<7Ě9 YEE<25z10 ȂLE<PĚ1 GA>1YĚ2 KPOO>VĚ3 JE<2DĚ4 WOO<1UĚ5 NGGEE>30Ě6 SE<20Ě7 NEN>1FĚ8 WE<2IĚ9 NDE>4Lz20 NGGO<1HĚ1 YO<10Ě2 MBU>1NĚ3 NDI>OĚ4 GBI<8Ě5 NDU>9Ě6 WEE<4LĚ7 NGGUA>37Ě8 HOOU<FĚ9 NDA>1Qz30 HAN<1PĚ1 IN<20Ě2 KPI>38Ě3 FOO<1SĚ4 NJOO>2GĚ5 IN<3XĚ6 SOO>7Ě7 EI<AĚ8 BO<8Ě9 WVE<Ez40 HO>2IĚ1 YOO<MĚ2 ȂMBO>1XĚ3 WEI<3YĚ4 VOO>4TĚ5 MBI<17Ě6 NGGE<OĚ7 O<2BĚ8 GBU>3JĚ9 NJEE>Ez50 BEE<49Ě1 VU>4CĚ2 NJA<6Ě3 LO<3DĚ4 MUAN<ZĚ5 GI>2XĚ6 NGGOO<7Ě7 JEE<1AĚ8 KPO>2EĚ9 NGGAA<13z60 JOO<1AĚ1 ȂMBE>23Ě2 SEE<2ZĚ3 EE<CĚ4 NYIN>4AĚ5 OO<49Ě6 GUEI>2NĚ7 GUAN>Ě8 GU<3Ě9 NON<Uz70 NYUN>2IĚ1 RA<LĚ2 MBOO<KĚ3 VEE>YĚ4 MBO<YĚ5 ȂJO<20Ě6 HI>LĚ7 NGUAN>YĚ8 EN<2MĚ9 KUA<12z80 DOO>1MĚ1 DO>Ě2 VI>39Ě3 ȂNGGO<1JĚ4 NGEN>6Ě5 VA>1CĚ6 HU<28Ě7 MBUU>1CĚ8 MBEE<4Ě9 MUEN<3Hz90 GEE>2ZĚ1 NDEE>16Ě2 NJU>4Ě3 HON<1TĚ4 WUI<2UĚ5 AN>SĚ6 SIA>8Ě7 FUA>17dORAH ƀМBRANCHES>2JWdS ƌ>A2cRCURY=7JZdOITIC CURSIVE ȶʯʓ>18ZHěװʓ<1TĚɖʓ>1Pě͎ʓ<1ĚМʓ>4ĚǮʽ<1TĞTWELFTH>1KĚ̗ʓ>5ěԔʓ<1ĚЭʓ>3ěѭʓ<7ěˢʓ<1rƃA<2Fz˅SA>FyBA<AyDA>GyE<MyHHA>CyI<CyKA>FzHA<5yLA<1yMA<4yNA>zE>yO<7yPA>3yQA>ByRA<8ySA>3zE>1yTA>2zE>zO>yWA<HyYA<1sӦIMN>QĚRMT<1rƹƬ>8ĝ ƚ>Hĥ Ǝ>QĞƎ<IĝY Ǝ>8yɲ<Uĝ",
  " Ǝ>QĚVE<10Ĝ ƚ>HĤ Ǝ>QĝƎ<IzΦ<Jĝ Ǝ>QĚUR<10Ĝ ƚ>HĤ Ǝ>QĝƎ<IyǊ<MĜ ƚ>HĤ Ǝ>QĝƎ<IĜTY Ǝ>8yǛ<18ě ƚ>Hģ Ǝ>QĜƎ<Iyƪ<Lĝ ƚ>Hĥ Ǝ>QĞƎ<IĝTY<Iğ Ǝ>QzIX<11ě ƚ>Hģ Ǝ>QĜƎ<IěTY<Iĝ Ǝ>Qyʚ<Wě Ǝ>Qz˾<PĞ Ǝ>QĚӵ<10ĝ ƚ>Hĥ Ǝ>QĞƎ<IzȽ<JĞ Ǝ>QĚO<10ě ƚ>Hģ Ǝ>QĜƎ<IjHIEROGLYPHIC ƃA<2KĝBA>5ğ-2>ĝDA>LĝE<SĝHHA>GĝI<GĝKA>JĞHA<5ĝLA<1ĝMA<7ĝNA>ğ-2>ĞE>ğ-2>ĝO<AĝPA>4ĝQA>EĝRA<9ğ-2>ĝSA>3ğ-2>ĞE>ĝTA>2ğ-2>ĞE>ğ-2>ĞO>ĝWA<NĝYA<1wȗVIDJ>Pġ-2>dͣ>1BGCcSSAGE մ=45cTRICAL ȇ>6YJjȂƣSHORT>tȉSHORTS>1jPENTASEME>4jȖƣ׳<6jTETRASEME>4kRISEME<1kˢSHORTS JOINED<1uƣ׳<1eO>2K6PbIAO ƃAH<QPWn˅MA<1PuNA>CvGA>HuZZA>PmBA<1QnRI>1VmDA<1MnDA>3nLHA>BpYA>1nZA>QoHA<9oYI>NoZA<SmFA<10mGA>NnHA>8oHA>mHA<3nHA>TmKA<12mLA<8nHA>1oYA>nYA<2mMA<JnHA>mNA>AoSALIZATION>1RnGA<19oHA>nHA<JnNA>2oHA>nYA>MoHA>mPA<19nLA>2mQA>TnGA>mREFORMED џ>3BĚ2>Ě4>Ě5>Ě6>Ě8>wѿ<31nTE>NmSA<GnHA<7nSA>nYI>HmTA<1OnE>1PnLHA<1ApYA>1nONE-2>3Ar3>r4>r5>r6>r7>r8>nSA<2QoE>HoHA<RoSA<4nTA<SmVA<6nFA>mWA>1KmXA<RmYI DZHA>9pKA<HpNNA<EpPA<GpTA>AqSA>17rHA<9qTA<10mZA>1AnHA<6nSA>6oHA<6nZA>6oSA>pYA>2oYA<1fƙֹ>Gkȏ˘Ȋ<2kREFORMED ֹ>3tVOICING<1fȄƅ>1QkƇ>kƩ<3k̾Ʃ>fƷƙA<1OrA>rE>TsE>rHH<UrI>YrN<YsG>rU>YqE<UrA>13rI<BrN<SsG>rR>NsR<2qI<KrA>sN>tG>rE>1rG>TrI<TrNG>1rO<4sNG>WrU<UqN>KrG>qO<11rER>14sY<YrG>WrO<13rU>XqάER<4ĚR<2qU<CrA>sN>tG>rEI>1rI>NrNG<NrOG>ErU<HqVW>KqW<13rO<1qY>LrI>rUI>DcCR ˏƌ=761fʾUS ƌ<1eO Ə=51fBE>2RQIfPHONE<16KfSCOPE>AVcDDLE ɑ=53hќƨƐƦǼ>2S5Mdȟƒ˒=6WFcLITARY ע>2L5YjӞ<1DSdKY WAY<3UdL Ə=6G5cNIBUS>2KTMeDISC<CZeMIZE>7RdUS Ə=6QAk ̎Ƨ>1LZlƀˋƅ<HqƽƇ>qЌʃ>qˮʃ>gǏ<1KAf-OR-PLUS Ə<1BdY>1KBcRROR>2JRYg η>AbMSP=6E7bOBILE PHONE>2KK1m OFF>2nƀƔǦҧǷ<2cDELS=6UFe",
  "RN PENTATHLON>2KYBdI ǍƏ<18U0fȰ<2g˿Ƭ>Mlǉ<3mȐ<1lǊ>4lǛ<8lƪ>5mIX<1lƤ<3mWO<1lǚ<2gȌȰ<EfƃA<1UnA>nI>9nU>1mBA>MnHA>mCA<InHA>mDA>AnDA<5oHA>nHA>4mE<MmGA>5nHA>mHA>SmI<18nI>mJA>HnHA>mKA<8nHA>mLA>PnLA>5mMA<9mNA<5nGA<FnNA>9nYA<5mO<BmPA>LnHA>mRA>4mSA>4nHA<2nSA>mTA<FnHA>nTA<6oHA>mU<LnU>mVA>10nȳL<YvL>uR<3vR>mYA>VfƙƸ>LlRDHACANDRA>2kHUVA>3kǤ<5mɟ<1fƷƙAA<ErI>9rU>1qE<3qI<8rI>qO>8qU<8rU>qǪL>2zL>yR<3zR>eFIER ׁƀƱȇ<L3Vjƃ̰ǵ=JUrLVEOLAR Β>1FJHrϒ=JGqֻʎʻ>1Ow˗ʻ>1rILABIAL Β>1FI1qƢA=5RGzE>yB>zҶB>yC>REQyD<REQyE>yF>REPyG<REOyH>z ƀƋ>RERyI<RERyJ>yK>yL>yM>yN>yO>1zU>yP>yQ>REDyR<REDz̋E<DġN>8yT>4yU>yV>30ByW<30BrENTRED Ɯƻə=K3yƐƻə<1rHINESE ȄYANG PING>WFIĢQU>3ĢRU>1ĢSHANG<4Ğ̎PING<3ġQU>3ġRU>1ġSHANG<4rɀǵ=JQr׿>WJMr֧ǵ=KFrYRILLIC EN>594z֎Ə>R37zSOFT Ə>qDENTAL Β>J6GṛƒȊ<J31ṷ<1uƊȊ<1sȔΎ=KUx֣<1Gsյƞ>Aṽ>Fqͷʎʻ>10u˗ʻ>1rXTRA-HIGH ȿɨȄȊ>WEOĢȄȊ<5ěɨȄȊ>9ěȄȊ=KLw˗ȿɨȄȊ>WFFġȄȊ<5ĚɨȄȊ>9ĚȄȊ=KPqGEORGIAN NAR>2S2rϨǽ=JKĜ ƀƋ>1FJMrRAVE ǵ=JVqƻȼʍ>5rIGH ȿɨȄȊ>WFWĜȄȊ<5vɨȄȊ>9vȄȊ=KMqLATERAL Β>1FIOrҎƞ=JMvƻə<3ṽ>XBErҭ̰ǵ=JZuɪǵ>WJCuȿɨȄȊ<3CěȄȊ<5wյƞ=KVu̵ǵ<XuƱǬƕ>WGGuƜƆ=LBĞҐ<Ey-STEM ȄȊ>WF7uǅ=JXuƐƞ>10wNG>uǏ>3vǮȊ<Fuʨƞ>7uƊɮ<10tחƐɰЁ>WGDqǅ=JTrID ȿɨȄȊ>WG5ěȄȊ<5uɨȄȊ>9uȄȊ=KNtDLE Ɨ̰ǵ>EĞ̵ǵ<1x̵ǵ<1sNUS Ə<TqȠSHELF>12qƟƏ<14rRIME<Tqɕʍ>1QxǱƆ>WF7xǬƕ>xƱǬƕ>xʨƆ<3rETROFLEX CLICK ƀƮơ>J31sVERSED ɂ=JHz˔ǽ>3ĥ ƀƋ>1FJMrHOTIC ơ=KErɶƞ<Rwƻə<5w̃>XBGqSHELF=L9s՛ɡƏ>WI4rȸA<RBBxE>1A9RxIN=5SSx̹<NwB>1x ƀơ>1A9PxҶO=5V5xε<2Cx؀ƻO<8wC>1Yx ƀΓ>xAPITAL AA>1A76ĞB>3ĞG>Dğ ƀơ>1ĞH>1ĞI=5UUğ ƀƋ>ğОR=JAĞL>5BOğ ƀҸ>1A7KĞN=5V4ĞOE>1A7MĞR>6ĞU=5VCĞY>1A7TxHI=5SXx΢͍>1A9UĝȀȠE<LwD=5S8x ƀơ>1A9Vġ ƍȓ>ĝȓ<2xι=5SVyZH ɋ>1A96x̤J ƀƋ=5UPī ƍơ>",
  "1A7QxZ ɋ<HĠ ƀΓ>1ĦƮơ<1wE=5S9xNG>7xSH>2QxTH<MxZH>VwF<UxENG ɋ>1A7JwG=5SDx ƀơ>1A9XxΌ=KGxREEK Η>58DĜPHI>1wH=J4x ƀơ>ĝƋ>1FJ7xENG<I7TĚ ƀơ>I7UwI ƀƋ=5USxҬ>wJ=J6x ƀ˧>5BPwK<2HwL=KHx ƀҸ>1FI1ĝƱLAZY S<I7YĝƑǏ>ĝǖơ<RZOĝƮơ<1ī ƍҸ>1A7NxEZH>Ě ƀƮơ>xɅOE<IW6xS ɋ>IVZxZ ɋ>wM=5SGx ƀơ>2JwN ƀƜơ>1ĝƮơ>wO<2Lx ƀƋ>1AA7xρE=5SBěO>7wP>2xHI>2JwQ>1A7MwR=J7x ƀΕ>1FJPĝȓ<1xAMS Չ<Nx̋E<3ğ˔ǽ=KKğȠE>5A2wS=KIx ƀΓ>1FIVĝơ=5V7xׅ<2XyRIPT G>2FxГU<21wT<2x ƀǖơ>2LĝƮơ>1A7TxC ЈƀΓ<4xESH ɋ>2x͝=5VJxOP ƻO<2ZxS ɋ>1AAFĠ ƀƮơ>x˸A=5S4ĞE>1Ğ̹>2CĝH>7ĝI<2DĝM>BĞ ƀȂҖ>2AĝȠE<2PĝR=J8Ğ ƀơ>ĤȂҖ>1FJKĬ ƍƮơ>ĝV=5VEĝW>RZIĝY>I7QĞ ƀҸ>wU=5SOx Ȋ>2LyƀƜơ>RZCxȯ<RZCwV<2Kx ƀơ>2LĝƐơ>1A7QwW=JBwX>17wY<17wZ>5C2x ƀΓ>1ĝƮơ<1rTRESS ƍʎʻ>R4Zě˗ʻ>rгƻȼʍ>J1CĜȼʍ<1qȼʍ=K0r˸ɂ<LqUNASPIRATED>1DrP ƞ<15t̃>FrS>WIJqƊɮ=JSrOICING>ZqYANG пȄƕ<1r̎пȄƕ<1dULO ȉSUM>7Q7cNEY BAG>2ILHgƀWINGS>7f-MOUTH Ǒ>UWdGOLIAN ռ=4QOp ƀƗƭ>1E8Zvƭ<4kʍ=4QSmMMA<2kƥƬ>Lqǉ<3rȐ<1qǊ>4qǛ<8qƪ>5rIX<1qƤ<3rWO<1qǚ<2lȌ־ƀƭ>1E8Hk˒=4QPkɗʃ>3lѕئSELECTOR ̂>9ĢǛ<4ĢƤ>1ģWO<1lԃǽ<9kƱռ>1E8Zy ƀƗƭ>kƃA=4RKsLI GALI A>2UěH>FěNUSVARA Ǜ<NĚBALUDA>4ĚCA>5ĚDA>5ĜGALGA>NĜMARU<13ěDA>BĚƻU>NğYA>ĚI<VěОUBADAMA<4ĚKA>4ĚNGA>ěNA>4ĚPA>2ěHA>ĚSSA>ĚTA<4ěѭBALUDA<AěTA>5ĜHA>ĚUBADAMA<AĚԇǛ<2ĚZA>KěHA<1sNG<30rBA>rѤ>9u ƀȉʃ>1VtI<1IrDA<FrE<IsE>5rFA>HrGA<CrБ>GrI<SrJA>IrKA>4sHA>rLA<CsHA>GrMA<ItNCHU ALI GALI BHA>3DġCA<CĢYA>6ġDDHA<4ĢHA>1ġGHA<7ġJHA>2ġLHA>CġNGA<FġSSA>6ġTA<2ĢTA<2ġZA>6ĢHA<1yFA<1AyI<3yKA>yRA>yZHA>1rNA<27rO<5sE>1rPA>5rQA>rRA>ArSA<7sHA>sIBE ANG>1CwѤ>EwDA<8wE<CwFA>DwGA<7yA>7wHA<7yA>7wI<FxY>wJA>AwKA<7wPA>2wRAA>9wѿ<9wTA>xSA>5wU<DxE<1wZA>ExHA>2rTA<1SsODO ALI GALI TA>2TğZHA>xNG<27wB",
  "A>wѤ>6wDA<1xZA>AwE<OwGA>9yA>9wБ>wI<KwJA>DxIA>6wKA<3wȂƷƏ<KwMA>BwNIA>BwO<LxE>1wPA>3wQA>wTA>2xSA>3wU<DxE>1wWA>CwYA<1sSA<PrU<OsE>1rWA>HrYA<2rZA>6sHI>3sRA<2kMANCHU ɂ<1Jrǻǽ>kNIRUGU>kǨռ>1E8Mx ƀƗƭ>4ĝƭ<1kSIBE ˠBOUNDARY ͡=4QVlWIRL ռ>1E8Xv ƀƗƭ>1ěƭ<1kTODO SOFT Λ=4QUlї־ƀƭ>1E8Sl˸SWIRL ־ƀƗƭ>8kƷǰ=4R2dKEY>2M0Zg Ǒ>YdOGRAM ʼΔ<6K5nة=7M2oIN>eRAIL>2JO1eSTABLE ƌ=70TcOD ͛>2K4IdN CAKE>OTfVIEWING CEREMONY<15PcSQUE>CAfITO>UQcTHER CHRISTMAS<2XdʵBOAT<GHgSCOOTER>FfIZED ا>JQfWAY<K9cUNT FUJI<6Gfѣ=7OWi BICYCLIST>2JLWjCABLEWAY<LjRAILWAY<2dSE<ILf Ǒ>17gTRAP>19YdTH<19CcVIE CAMERA<4FcYAI>GPbRO Ȱ<RKHf˿Ƭ<6kǉ<3lȐ<1kǊ>4kǛ<8kƪ>5lIX<1kƤ<3lWO<1kǚ<2fȌȰ>EeƃA<15lBA<2lCHU>6lDA<6nI>4lE>DmA<2lHAI>5nO<JlKEAAE>2mHAI<4mO>GlLA>1nN<1lMAEM<CmIM<BlNGI<2mIN>DlO>2mL<5mO>3lPA<1mHI<9lRI>LmO<AlSHI>lTA<KmEK>TmHEA<9lWA>1lYO<LbUCH ǒ=6SRfǿ<1cLTANI ƃA>1BF9pBA>SqHA>1pCA<LqHA>pDA>CqDA<6rDA>rHA>qHA>4pE<MpGA>2qHA>1pHA>TpI<11pJA>AqJA>pKA<9qHA>pLA>TpMA<3pNA<6qNA<5qYA<6pPA>BqHA>pRA>5qHA>5qRA<1pSA<2pTA<FqHA>qTA<7rHA>pU<FpVA>XpYA<3iɆƕ>7eIMAP=6UWfѓ͊Ӥ>2JULhICATION Ə=5Zt ̎ƗƵ>867xƜƻƵ<3xƐƻƵ>xƧ>5uƀƽƅ<Bzǩ>pX<M4fSET<W9i MULTIPLICATION>jв>cSHROOM>2JSLdIC FLAT Ə=7L9gNATURAL Ə>gSHARP Ə>fAL KEYBOARD>2J49q ƀJACKS<Xiͻ>SiSCORE>6j̿ARPEGGIATO ʕ<6RCĚUP<1pֻBEAM<GvPHRASE>5vSLUR<2vTIE<2qRACE<2PtKET>rEATH ƕ<3sVE>21tIS>2Jv ͑>ApC Ա<4IqAESURA<EqIRCLE X ͌>1DqLIMACUS>41sVIS<2rUSTER ͢ǹ<3EĠ̯<1qODA<26rЗǵ>32ğث>5ĚUGMENTATION ɑ<KzBEND>RzDOIT<4ěȔӿ>4ěյBOW>VzFLAG-1<1OĞ2>Ğ3>Ğ4>Ğ5>ěIP>KzHARMONIC>10zLOURE<16zMARCATO<3Ġث>zRIP>5zSMEAR>1ĚNAP PIZZICATO>10ĚPRECHGESANG ؑ<1ZĚTACCATISSIMO>NĠO<2ěEM",
  "<NzTENUTO>NĚREMOLO-1<Mġ2>ġ3>ěIPLE ӿ>XzʨBOW>VsMON TIME<3BqRESCENDO>2LrOIX>1OqUT TIME<4ApDA CAPO<17rL SEGNO<1rMP>4Qt ALL>rSHED ΀<4XqECRESCENDO>3YrGREE ̭>LqȌ΀<4OwFLAT>15wSHARP<1qRUM CLEF-1<5z2>pȥͻ>1Lw͑<YqѴBEAM>1HtȕSTIMME>1FtPHRASE<1AtSLUR<2tTIE<2pF Ա<2Cv OTTAVA ALTA>ĝջ>qERMATA<Kw Ƈ>qΝ΀<FsGERED TREMOLO-1>2VĠ2>Ġ3>rVE-LINE ҂<2AqLAT ʕ>IuUP<1qORTE>2SrUR-LINE ҂<3CuSTRING FRETBOARD>3qUSA ǹ>4Iu̯<1pG Ա<4Hv OTTAVA ALTA>ĝջ>qLISSANDO ʕ>41zUP<1qRACE ӣ՘̭<SḘ̌<1rEGORIAN C Ա>1NzF Ա>pƻͻ<37uPEDAL ƕ>29u͑<38rUPTSTIMME>2XpƱTURN<EpKIEVAN C Ա>1XwȥӣSTEM ʕ>7ħUP>xѴȕϑ<8wƄͻ>xLAT Ə>7wƻͻ<5wȹӣSTEM ʕ>ĨUP>wRECITATIVE ƕ<4wWHOLE ͻ>qORON>7pƜѻƏ<6CqONGA>4Wu IMPERFECTA ͑>AvPERFECTA ͑<1pMAXIMA<BqEZZO<12qINIMA>16v ǹ>w͑>8qOON ͢ǹ<36ĝ̯<1qULTI ͑<OuѓИ͑<HpNATURAL ʕ>5xUP<1qEBENSTIMME>3CqOTEHEAD ǹ<27qԃ͌>pǮǕTWENTY-EIGHTH ͻ>Aĩ͑<Ys-LINE ҂<18qRNAMENT STROKE-1>3OĠ0>8Ġ1>ğ2<9ğ3>ğ4>ğ5>ğ6>ğ7>ğ8>ğ9>qTTAVA ALTA<31wջ>pɻ͌>UqEDAL ƕ>2Fvʨƕ>rS SUBPUNCTIS>19qIANO<26qӜ͌<23qODATUS>3ZrRRECTUS>4y FLEXUS>pȹͻ<3Fx͑<YxȄFLAT<AĜSHARP<1rINDICESIMA ALTA>5Ĝջ>pѻʃ<1DvӀFIGURE-1>4ğ2>ğ3>rγƄ΀<CqɶѻƏ>3rNFORZANDO>3OpSCANDICUS>21y FLEXUS>4qEGNO<5SrMIBREVIS ǹ>4UĚ͑>9Ě̯<BtMINIMA ǹ>4Ě͑>7Ě̯<9qHARP ʕ<3WvUP<1r՛΀<17qӓ΀<5rX-LINE ҂>QtSTRING FRETBOARD>sTEENTH ͻ>1Wz͑<YtY-FOURTH ͻ>ZĜ͑<YqORI>4NqΫB<Nw͢ǹ<3Vğ̯<1qUBITO>1YpTEMPUS IMPERFECTUM CUM ֤ש>1PĻ Թ>Ň2>Ň3>ıPERFECTA<4wPERFECTUM CUM ֤ש<2įPERFECTA<1ķ Թ>1qHIRTY-SECOND ͻ<2Vĝ͑<YrREE-LINE ҂<14qORCULUS>5Bx RESUPINUS>3qR<1YrѮ͢Ǳǹ<1ZĦ̯<1ġƜǹ<3Ħ̯<1ġƐǹ>2ħ̯<1ġʨǹ<3ĤƐǹ>7Ī̯<1Ĥ̯<8x-ROUND ͢Ǳǹ>CĬ̯<1qURN>1Ut ̭>1uUP>qWO-LINE ҂<3NpVIRGA>57qOID ͌<3GpWHOLE ",
  "ͻ>5v͑<YqITH FINGERNAILS>3BpX ͌<34pZ>22bVS=4R2bW=45bYANMAR ȏƙƛHA>33CĞRA<2ĞWA>ĞYA<2yʾƛLA>10ĢMA<1ĢNA<1x֫ƛWA>ZiƥƬ<1Moǉ<3pȐ<1oǊ>4oǛ<8oƪ>5pIX<1oƤ<3pWO<1oǚ<2iƃA<VqITON RA>UHKqU<UHCpBA<JqHA>pCA<JqHA>pDA>BqDA<5rHA>qHA>4pE>JqASTERN PWO ̸GHWA>20ġNNA<2ġYWA>pGA<31qHA>qREAT SA>1NpHA<WpI>3qI>pJA<TqHA>pKA<8qHA>sMTI CA>UHRxHA>wDDA>5yHA>xHA>wFA>4wGA<FwHA>CxHA>wJA<BxHA>wLLA>9wNA<3xYA<6wRA>DwSA<7wTTA<6yHA>wXA>9wZA>pLA<UHIqLA>3pMA<7qʾBBA>1UvE>tE<1HtJHA>1EtNGA<1pNA<1YqGA<GqNA>ArYA<5qYA<1pO>VpPA<KqHA>pRA>4qUMAI ӫFA>36pSA<34qGAW ̸ѿ>1UqHA<HsN A<1AuBA>2KvHA>UASuCA<UB0vHA>UAWuDA<UAUuFA>2uGA<7vHA>UAWuHA<UANuJHA>UAOuKA<UB1vHA>uNA>5vNA>UAUvYA<UAXuPHA>2uTHA>2uZA<7rWE ӫѤ>UF8Ĝѿ>qSA<UGEpTA<1TrI ׭BA>UEKĚHA>zDA<3ĚDA<EěHA>ĚHA>DzFA<KzGA>ĚHA>zJA>ĚHA>zLLA>DzNNA<BĚYA<8qHA<UDYqTA<6rHA>pU>OqU>pǪL>19yL>xR<3yR>pWA<1IqESTERN PWO ̸PWA>20ġTHA<1pYA<23jӦՎHM>UHNyOAY<2yQN>i˘ƃՎԝ<5y֫ԝ<3Ui֫ƥƬ<UA6tǉ<3uȐ<1tǊ>4tǛ<8tƪ>5uIX<1tƤ<3uWO<1tǚ<2jλƸ<2IoSAT>3nƽƇ<3nՎџ>2Qz3>nȲ˱<29nPAO ̸ʻ>UGGnRUMAI ӫTONE-5<UEKn˱<1WoHAN COUNCIL EMPHATIC ʻ>1TĚӾ<2ğ3>sSAW>UAGsӾ<UAMx3>x5>x6>nTAI ׭Ӿ>UEPĜ5>nǤ<UH0pɟ<1nWESTERN PWO ̸џ>1CĤ2>Ĥ3>Ĥ4>Ĥ5>j̿AFOREMENTIONED<VqITON ։>UG8vǛ>vΈ>pCOMPLETED<UGCpGENITIVE>1pLOCATIVE<3p֫։>2AuǛ<1iTAI ׭ƥƬ>UAHyǉ<3zȐ<1yǊ>4yǛ<8yƪ>5zIX<1yƤ<3zWO<1yǚ<2jǮǴSGAW ̸HATHI<UBXĝKE PHO>iƷƙAA<1KuI>5vTON A>2XĚI>tE<30u ƅ>3tGEBA ̸I>1NtI<1WuI>tKAYAH EE>1XzOE<2zU>tMON II<1SxO>tSGAW ̸EU>19uHAN AA>WyE>z ƅ>yƄY>tTALL AA<2JtU>3uU>tǪL>13ĜL>ěR<3ĜR>tWESTERN PWO ̸EU>FĥUE>aN-ARY ȴƽǄ>51ZoƟǄ>oƘǄ>hOPRODUCT<1KIgɓ>4Xgָ̑<2oOR>gʋ<4YgɁԓǄ>1KLnUNION Ǆ>hUMMATION<1KLgƘǄ>1KNgв<1FQl қƀ",
  "ɑ>1FJĚФ>gƨƊȊ>6YbABATAEAN CRUCIFORM ƹ̂>17SBkƃˎ<16sֲ>Lṟ<Kr̉>1rƄˎ<5x̱>1xHE>3x͇>7xʅ>1xи>1x̢>1xSHIN>7xͫ<Gr̩<8rHE>2tTH>2r͇>4rʅ>1rи>1r̢>1rPE>2rӱ>1rϰ>r˛<2tΣ<3sζ>6r҅>sԽ<Jrͪ<3rͫ>4r̜<4kƹǉ>YsȐ<2rǛ<3u ƚ>7rʚ<2sΚ<4sȽ>4tO<6dLA=6PZcIL POLISH>2K59dRA Ə=6G6cK=LcME BADGE>2QX1cND=6V0eINAGARI х>1CTImƃA<1VuA>uI>9uU>1tBA>MuHA>tCA<IuHA>tDA>AuDA<5vHA>uHA>4tE<MtGA>5uHA>tHA>StI<18uI>tJA>HuHA>tKA<8uHA>tLA>PuLA>5tMA<9tNA<5uGA<FuNA>9uYA<5tO<BtPA>LuHA>tRA>4uRA>7tSA<3uHA<2uSA>tTA<FuHA>uTA<6vHA>tU<LuU>tVA>10uȳR<10ĜR>tYA>VmƙƸ>Msɾ>2r·>rǤ<2tɟ<1mƷƙAA<EyI>9yU>1xE<3xI<8yI>xO>8xΪE>7xU<GyU>xǪR>ĠR>c֨NO-BREAK ʸ=6CVcTIONAL ƥSHAPES>1QjPARK>2KBZcUSEATED Ǒ>11FcZAR AMULET>64bBH=3NcSP>SbECKTIE>2QPFcGATED ƗƊ̄ƗƐʧ=6UNf׬Ͼ=Ljȴƥǚ>7AHrʆƢƃA>2IXCĦB>ĦC>ĦD>ĦE>ĦF>ĦG>ĦH>ĦI>ĦJ>ĦK>ĦL>ĦM>ĦN>ĦO>ĦP>ĦQ>ĦR>ĦS>ĦT>ĦU>ĦV>ĦW>ĦX>ĦY>ĦZ>rƹЊ=7AQzΡ<7y͂>3z՝<1yН>4yϖ<2zӖ<1yTHIRTEEN<3zδ<1ěNTY>7rǋ>2K83rƧ<2jǌȺ>RQsǺ>1sƑƐɊƿț<1jЫAB<20Grоƕ=7RIrIC>2IIKrʆƢƃA<RĦB>ĦC>ĦD>ĦE>ĦF>ĦG>ĦH>ĦI>ĦJ>ĦK>ĦL>ĦM>ĦN>ĦO>ĦP>ĦQ>ĦR>ĦS>ĦT>ĦU>ĦV>ĦW>ĦX>ĦY>ĦZ>rPA>2rǗƕ>20NrSA<20NrWC>1cITHER A SUBSET ȕՙƫTO=6TKmPERSET ȕՙƫTO>jPPROXIMATELY ՙجƫTO<1UiȮՙƫTO>15ĜʐTO>3zǿ>3iʱՙƫTO<9zʐTO>3wǒ>3cL=3PcPTUNE>7GGh ʰΈ>136cRD Ǒ>2J49cSSUS=8NWdT ƀEGGS>2JFHeɜDOLLS<1GcUTER=7N6eRAL CHESS Ϟ>2KB4u ǨȈƴ>KĝȉǕȒƴ>15oт>7y ǨȈƴ>2oҕ<25s ǨȈƴ>KěȉǕȒƴ>15pώ<1Nu ǨЏƴ>3ĝȈƴ>GĝǮǕϷƴ>3ĝƶǕЍƴ>15ĞˢǕȒƴ<4ĩϸƴ<Ho՞<19s ǨȈƴ>KěȉǕȒƴ>15oϔ<1Vt ǨȈƴ>KĜȉǕȒƴ>15oҠ<1Qs ǨȈƴ>KěȉǕȒƴ>15o˷Ϟ<Kvҕ<3wώ>3v՞>vϔ<4vҠ>iǑ<T8cW ɮ=Aeόƌ>2QKMjƀǑ>8eSHEQEL Ə=6GAeTAI LUE ƥƬ<1CIsǉ<3tȐ<1sǊ>4sǛ<8sƪ>5tIX<1sƤ<3tWO<1sǚ<2mƃƄB<9zD<1zK<1zM<1zN<1ĚG<1zV<1tʎBA<VyDA<1yFA<7yHA>5yKA<UzVA>ZyLA<",
  "AyMA<6yNA<6zGA<CyPA>FzHA>yQA<LySA>8zUA>WyTA<SzHA>zSA<7yVA>IyXA<OzVA>ZyYA<Tt˗BA>QxDA<1xFA<7xHA>5xKA<UyVA>YxLA<9xMA<6xNA<6yGA<CxPA>FyHA>xQA<NxSA>AyUA>UxTA<QyHA>ySA<7xVA>IxXA<OyVA>YxYA<SmƙLAE>28uV>mTHAM ƥǛ<5nǮю<Iw2>mƷƙAA<OzY>9yE<5yY>3xE<5xII<3yY>DxO<9yA>zY>5yY<1xU<AyE>5zY>5yU<ByY>7xƷSHORTENER<CdA ǍƏ>1DI6fɂ<2fȰ<2g˿Ƭ>Clǉ<3mȐ<1lǊ>4lǛ<8lƪ>5mIX<1lƤ<3mWO<1lǚ<2gȌɂ>9mȰ<EfGAP ̴>1fתƏ>EfƃA<2LnA>nI>9nU>1mBA>PnHA>mCA<KnHA>mDA>BnDA<5oHA>nHA>4mE<OmGA>5nHA>mHA>YmI<1EnI>mJA>InHA>mKA<9nHA>mLA>UnHA>mMA<6nHA>mNA<7nGA<HoHA>nHA>GnNA<6nYA<6oHA>mO<DmPA>OnHA>mRA>5nHA>mSA>5nHA<2nSA>mTA<JnHA>nTA<6oHA>mU<NnU>mVEDIC Ƹ>2HnȳL<2FvL>uR<3vR>mWA>14mYA<5fOM>Tfՠƕ>Hfѽƕ>2gIDDHI<KhGN Ƹ<6lɾ>2kǃ<4kƄƸ>4k˂>Nkɹ<Qkˇ>QkǤ<Vmɟ>2fƷƙAA<GrI>9rU>1qE<3qI<8rI>qO>8qU<8rU>qǪL>2zL>yR<3zR>dȟǷ=8LUiƩ>dSPAPER>2ICCcXT ɮ=3PfPAGE>6XEbɶƀSTARS>2JJEcNJA>19VbKO ɥƗƽƅ=1KJoȂքʻ<5tʎʻ>t˗ʻ>tˮʻ>oԗƕ>oȖʎʻ<7u˗ʻ>uˮʻ>hMA>AeDANTAYALAN>4f˿Ƭ<1Hkǉ<3lȐ<1kǊ>4kǛ<8kƪ>5lIX<1kƤ<3lWO<1kǚ<2fOROME Ə>1PeǬƕ<5eʎȄΎ<5eLAJANYALAN>5fETTER A<1ClBA>8lѤ>3lDA>nGBASINNA<7lE<4mE<2lFA>HlGBA<1lHA>7lI<OlJA>9mONA Ѥ>IqJA<1qRA>1lKA<ClLA>lMA>1lN<FmA>Gn WOLOSO<3mYA>1o WOLOSO>4lO<NmO<1lPA>4lRA>4mRA>lSA>lTA<6lU<7lWA>MlYA>fҭȄΎ>EeȗGBAKURUNEN>1lOO DENNEN<1eTAMAN Ə>8bL=AbNBSP>6CKbO BICYCLES>2KXVeREAK HERE=3NdENTRY>7KGi Ə>2JMEdMOBILE PHONES<C6dǮԅEIGHTEEN ƌ>14dPEDESTRIANS>BCeIRACY<91dSMOKING ƌ>8Qc-BREAK ʸ=4GcMINAL ƥSHAPES>6A6eSMA Ə>18GUcN-BREAKING Λ=6C1ePOTABLE WATER ƌ>2KYNdFORKING=8GTcR<1LSdDIC ǴƏ<EAdMAL SUBGROUP OF>DYs ʵƫTO>1dTH ɱƍˍ̘Ɔ>19Pm،<1HNq ƍˍɱƆ>1HSrǓɩ̘Ɔ>8ĚˍɱƆ<3rƀơ<AlƯƆ>DFlƗƆ<1TDlƦBUD>2KJUu̐<G",
  "uϛ̐>7lǸƆ>E2lǡƆ=8KNĠ ɊȊ>FlƨƆ<3BgINDIC ȶǮс>OQBzʽ<3z˭<1zҡ>2vƶ͐<1ěα>2mՠƕ>1mQUANTITY ƕ>1pRTER ƕ<3mϲƕ>1g̘ƍˍɱƆ<P3Rm،<1HNq ƍɩɱƆ>1HSrǓɩɱƆ>ArɊʔ<1FLuȂȊ<1Lrƀơ>1GQlƯƆ>DHlƗƆ<1TFlƦBUD>2KJTu̐<Guϛ̐>7lǸƆ>E3lǡƆ=8KMĠ ɊȊ>FlƨƆ<39fEAST-POINTING ΋>2IUGcSE<IVcT A SUBSET OF=6TGiPERSET OF>fLMOST ƫTO<1OfN ELEMENT OF<1SfSYMPTOTICALLY ƫTO>1MeΑƕ>8MeƫTO<7VhʐTO>Ceǒ>1eIDENTICAL TO<Deǿ>BeϫSUBGROUP OF>3Fw ʵƫTO>1ePARALLEL TO<5IeƏ=4SfΫчȕʵƫTO>6R9lORIGINAL ȕʵƫTO>eǏ<4IfRUE>2ZdCHED Ɯ̖ƀƶʃ>2K5Xjϐ̀ƨƔƆ=7U7iƐ̖ƀƶʃ>2J6Ciǐ̀ƨƔƆ=7U9dE>2J9Ye PAD>1hGE<1eԩ<6Ui ƀDECORATIVE COVER>bUL=0dL<cMBER EIGHTEEN ǻǽ>788iװǻǽ<7hЍǻǽ>3iOURTEEN ǻǽ<1hNINETEEN ǻǽ>4hSEVENTEEN ǻǽ<2iIGN=ZjXTEEN ǻǽ>777hЭǻǽ<6iHIRTEEN ǻǽ>2iѢǻǽ<1kNTY ǻǽ>7dERO Ə<P1cSHU CHARACTER-1B170>272Xu1>u2>u3>u4>u5>u6>u7>u8>u9>uA>uB>uC>uD>uE>uF>t80>u1>u2>u3>u4>u5>u6>u7>u8>u9>uA>uB>uC>uD>uE>uF>t90>u1>u2>u3>u4>u5>u6>u7>u8>u9>uA>uB>uC>uD>uE>uF>tA0>u1>u2>u3>u4>u5>u6>u7>u8>u9>uA>uB>uC>uD>uE>uF>tB0>u1>u2>u3>u4>u5>u6>u7>u8>u9>uA>uB>uC>uD>uE>uF>tC0>u1>u2>u3>u4>u5>u6>u7>u8>u9>uA>uB>uC>uD>uE>uF>tD0>u1>u2>u3>u4>u5>u6>u7>u8>u9>uA>uB>uC>uD>uE>uF>tE0>u1>u2>u3>u4>u5>u6>u7>u8>u9>uA>uB>uC>uD>uE>uF>tF0>u1>u2>u3>u4>u5>u6>u7>u8>u9>uA>uB>uC>uD>uE>uF>s200>u1>u2>u3>u4>u5>u6>u7>u8>u9>uA>uB>uC>uD>uE>uF>t10>u1>u2>u3>u4>u5>u6>u7>u8>u9>uA>uB>uC>uD>uE>uF>t20>u1>u2>u3>u4>u5>u6>u7>u8>u9>uA>uB>uC>uD>uE>uF>t30>u1>u2>u3>u4>u5>u6>u7>u8>u9>uA>uB>uC>uD>uE>uF>t40>u1>u2>u3>u4>u5>u6>u7>u8>u9>uA>uB>uC>uD>uE>uF>t50>u1>u2>u3>u4>u5>u6>u7>u8>u9>uA>uB>uC>uD>uE>uF>t60>u1>u2>u3>u4>u5>u6>u7>u8>u9>uA>uB>uC>uD>uE>uF>t70>u1>u2>u3>u4>u5>",
  "u6>u7>u8>u9>uA>uB>uC>uD>uE>uF>t80>u1>u2>u3>u4>u5>u6>u7>u8>u9>uA>uB>uC>uD>uE>uF>t90>u1>u2>u3>u4>u5>u6>u7>u8>u9>uA>uB>uC>uD>uE>uF>tA0>u1>u2>u3>u4>u5>u6>u7>u8>u9>uA>uB>uC>uD>uE>uF>tB0>u1>u2>u3>u4>u5>u6>u7>u8>u9>uA>uB>uC>uD>uE>uF>tC0>u1>u2>u3>u4>u5>u6>u7>u8>u9>uA>uB>uC>uD>uE>uF>tD0>u1>u2>u3>u4>u5>u6>u7>u8>u9>uA>uB>uC>uD>uE>uF>tE0>u1>u2>u3>u4>u5>u6>u7>u8>u9>uA>uB>uC>uD>uE>uF>tF0>u1>u2>u3>u4>u5>u6>u7>u8>u9>uA>uB>gɧƕ<D96cT ƍBOLT>QBRbYIAKENG PUACHUE HMONG ȴCA<3X6xƥƬ<7ĝǉ<3ĞȐ<1ĝǊ>4ĝǛ<8ĝƪ>5ĞIX<1ĝƤ<3ĞWO<1ĝǚ<2xƃA<SğA>ĞCA<TĞDA>6ğLA>DĞE>CğE>ĞFA<MĞGA>CĞHA<UĠH>QĞI>6ĞKA<OĞLA<5ĞMA<9ğLA>VĞNA<RğCA>6ğKA<5ğPA>KĠLA>1ğQA<5ğRA<8ğTA<FĠSA>AĠXA>5ğYA<3ĞO>NğO>ĞPA<FğLA>6ĞQA<AĞRA<1ğRA>CĞSA<PĞTA<7ğSA<2ğXA>IĞU>IĞVA<LĞW>PĞXA<12ğYA>KĞYA<3ĞZA<DyӦNYAJ>1UxƙʼANIMAL<KĠINVERTEBRATE>ĠLOCATION<2Ġͣ<2ĠTHING>ĜXW XW>3yԍь>xTONE-B<DĜD>5ĜG<1ĜJ<3ĜM<1ĜS>2ĜV<1aOBJECT REPLACEMENT χ<18HJcLIQUE ȚРʕ=887wUP<1iΛ>XIcSERVER EYE ƌ<21QbCR AMOUNT ȕվ>1ZeBELT BUCKLE<3fҭTIE>fRANCH BANK IDENTIFICATION>eCHAIR<5fUSTOMER ACCOUNT NUMBER>7e̊<1fȌ̝>1eFORK<8eơ<2eƱFORK>2cTAGONAL Ə>2K5PdOPUS<JCbDEN<53bFFICE Є>3JbGHAM FEATHER ƕ=4GRgƃAILM<BnBEITH<FnCEIRT>8oOLL<1nDAIR<2nEABHADH>DpDHADH<2pMHANCHOLL>5nFEARN<MnGORT>8nIFIN>BoODHADH<4nLUIS<InMUIN>8nNGEADAL>1oION<8nONN>BoR>4nPEITH>3nRUIS<BnSAIL<BoTRAIF>9nTINNE<6nUATH<2oILLEANN>GoR<5gȀFEATHER ƕ>9gSPACE ƕ<ScONEK=KBbHM Ə>5ZEbIL DRUM>2KSBbK ̪Ə<IEbL CHIKI AHAD=5MLjƥƬ<11pǉ<3qȐ<1pǊ>4pǛ<8pƪ>5qIX<1pƤ<3qWO<1pǚ<2jGAAHLAA TTUDDAAG>14jƃAAJ<OsK<1sM>1sW>rG<7rL>1rNG<1rT<2qEDD>KrN>rP<2rRR>2qIH<CrNY>rR>rS<3qLA<BsA>4rE>ErI<ArO>ErU<",
  "AqOB>BrH>1rTT<3rV>1qUC<CrD>rNN>rY>jMU TTUDDAG>Al-GAAHLAA TTUDDAAG>1jPHAARKAA>1kбƗMUCAAD>2vMUCAAD<1jRELAA<3cD CHINESE Ȟƕ>1V1Imɧƕ>eHUNGARIAN ƢƃA<JMRĞA>ĞK>IĞMB<HĞND>4ĝCLOSE E>1ĝE<1ĞB<7ĞC>1ğH>10ğS<ZĞD>ĞE>3ĞF>ĞG>ğY>ĞH>ĞJ>2ĞK>ĞL>2ğY>ĞM>ğP>8ĞN<8ğC<KğT>XĠ-SHAPED Ə>9ğY<NĞP>5ĞR>1ĞS>1ğZ>ĞT>ğY>1ĞV>5ĞZ>ğS>ĝI<WĞI>ĝ֜OE>BĨUE>EĝO<HĞEE>3ĞO<3ĝ؍OE>1ħUE>EĝȖER<AĝU>6ĞNK<LĞS>SĞU<7oƹɲ>29xVE<2vǛ<1y ƚ>3zƎ>vʚ<3oƖƃA<1OĜA>ĜK>IĜMB<HĜND>4ěCLOSE E>1ěE<1ĜB<7ĜC>1ĝH>10ĝS<ZĜD>ĜE>3ĜF>ĜG>ĝY>ĜH>ĜJ>2ĜK>ĜL>2ĝY>ĜM>ĝP>8ĜN<8ĝC<KĝT>XĞ-SHAPED Ə>9ĝY<NĜP>5ĜR>1ĜS>1ĝZ>ĜT>ĝY>1ĜV>5ĜZ>ĝS>ěI<WĜI>ě֜OE>BĦUE>EěO<HĜEE>3ĜO<3ě؍OE>1ĥUE>EěȖER<AěU>6ĜNK<LĜS>SĜU<7e΅ƃA<1YJsBE>sCHE>QsDE<PsE>tF>LtKS<3tL<CtM>tN>tR>5uS>7tS<7uH<6uS>GsHE<OsI>1tI>JsKA<JtE<8tHE>MtU<7sNORTHERN TSE>RsO<VsPE>tHE>7sй<7tOUTHERN TSE>TsTE<QtHE<DsU>DtU>7sVE<PsYE>13sZE<13l̔ɲ>SvVE<2tǛ<1tʚ>1eKEY>1BY2eɩARABIAN ƃѣ<1AH7ĚLEF<1zּ<9z׋>AěL>1zES-1<BĜ2<4Ĝ3>8zԐ>zGEEM>3ĚHAIN>1zҩ<KĚEH<2zҪ>AĚҩ>1z֗<Czӟ>1zξ>8zҮ<8zREH>2z֩>6zծ>8ĚEH<EĚן>FěEH>1zͪ<Mzϻ>KzZAH>1ěIN<4sƹǛ>4zʚ>ĚȽ>ePERMIC ƃAN<1FZsBUR>sCHERY>IsDOI<HtZHOI>2uITA>1sE<4tF>MsGAI<PsHA>PsI<JtA>RtE<3sKOKE<OsLEI>sMENOE>sNENOE>sO>BtO>sPEEI<BsREI>sSHCHOOI>5uOOI<1tII<4sTAI>tSIU>AsU<AsVER>AtOOI<GsYA>LuT<3tER<2vI>vU<8tRY<1tU>BsZATA<StHOI<2hSIAN ƹƚ>3JtǛ<4tʚ>1uȽ>vO<2mƙA<1EsURAMAZDAA>13ě-2>ěHA>rBA<OtGA>RsUUMISH>rCA<13rDA>4tHYAAUSH>UĚ-2>sI<VsU>rFA>3rGA<EsU>rHA>SrI<YrJA>7sI>rKA<7sU>rLA>PrMA<8sI>sU>rNA<4sU>rPA<4rRA>AsU>rSA>1sHA>1sSA>rTA<NsHA>4sU<4rU<ArVA>NsI>rXA<KsSHAAYATHIYA>ZrYA<IrZA>6mд΃>FiONAL Һ>1BS2eSOGDIAN ȶǮʽ<19JHmƃˎ<12vTERNATE AYIN>Iuֲ<1ṯ<GtƄˎ<1ẕ>",
  "1zHE>2z̢>8Ĝ ƀƊȓ>z˛>5Ğ ƀƊȓ>z҅>3Ĝ ƀƊȓ>t̩<OtHE>vTH>3t͇>1tʅ>tи>t̢>tPE>5tRESH-AYIN-DALETH>3t˛<3vΣ<4uζ>7t҅>tͪ<Jtͫ>2t̜<2nɅAYIN-DALETH>Umƹǉ<6uȐ<1tǛ<3w ƚ>7tʚ<3u˾>1vӵ<5uȽ>3vO<5gUTH ARABIAN ƃϿ<X9ĚYN>ẕ<Az̉>CĚHADHE<2ĜLETH>5zFE<9zGHAYN>5ĚIMEL<2zHE<KěTH>1z͇>8ĚHETH>1zʅ<Czи>1z̢>8zӱ<8zϰ>2z˛>6ěΣ>ěT<5Ěζ<4z҅>2ĚԽ>DĚHAW>3ěԽ>zͪ<Nzͫ>KzZAYN<2sƹɲ>5zǛ<1vERIC ˕>1eTURKIC ƃORKHON A>AOĚB>8ĚD>7ĚEB<6ěD>7ěG<4ěK>AěL>5ěN>3ěR>NěS>1ěT>6ěY<19ĚG<BĚL>GĚN>4ĚQ>GĚR>5ĚS>2ěH>1ĚT>3ĚY<19zBASH>1DzEC<MĚLT<HĚM>ĚNC>5ěG>4ěT<7ěY>3ĚP>4ĚSH>HĚZ<19zI<HĚC>19ĚQ>4zO<1CĚE>ěK>KĚP>JĚQ>7ĚT>EsYENISEI A<1YěB>8ěD>7ěE<GĜB>9ĜG>3ĜK>AĜN>9ĝG>8ĜT>NĜY<19ěG<BěL>GěNG>CěQ>8ěR>5ěSH>4ěT>3ěY<19ĚE<IěC>19ěNC<AĜT<2ĜY>3ěSH>MěZ<19ĚI<HěQ>1EĚOE<1BĜK>KěQ>ReUYGHUR ɥƽƅ>NCzƇ>vȉǇƅ>ĞƇ>lƃˎ<Ls̱>sƄHETH>3sGIMEL-HETH<3s͇>4sʅ>tESH>8sи<8s̢>sPE>1sϰ>1s˛<1uΣ<2tζ>3s҅>sͪ<Dsͫ>2s̜<2lǯȊ>Hxɗʃ>2xȉBARS<2ěʃ>dחADULT>1AA2gҗ<127gWOMAN>cIVE>198bM ƌ<13DbN ƀǬǴƀƜƐǦƅ<1AcԲAUTOMOBILE>AKjBUS<BjFIRE ENGINE>2RjPOLICE CAR<2LjTAXI>1cE Ԭ֛<6Feƽׯ=6CKiƣȉǇǜ>2RQd-PIECE SWIMSUIT>2IX1cION<4Sbρԩ<Z3hX=74Zfɠǂ>LQmƯȩ<7mȺ<Gmˡǂ>WfFILE Ӈ>2J5XgOLDER>72fנƏ<A9fLOCK>5EfMAILBOX ƀLOWERED у<12sɕу<1fͧ=7URhђ>e-CIRCUIT-OUTPUT H-TYPE ƌ<TXuL-TYPE ƌ>fҜƔƆ>TPdRATING SYSTEM COMMAND=4DcHIUCHUS>7JKcPOSITION<5DcTICAL DISC>2JE9m ICON>6WeʾKEY=6XXbR ƀƽʖ>WXcANGE ԩ>2J2Ph˽>ZRfUTAN<1McIGINAL OF=6UUdYA AI ɔƕ<4M8hU ɔƕ>gƥƬ>Mmǉ<3nȐ<1mǊ>4mǛ<8mƪ>5nIX<1mƤ<3nWO<1mǚ<2gȶǮс>Ftʽ<3t˭<1tҡ>2pƶ͐<1vα>2gISSHAR<7gƃA<2ZoA>oI>9oU>3nBA>NoHA>nCA<JoHA>nDA>AoDA<5pHA>oHA>4nE<OnGA>7oHA>nHA>WnI<1EoI>nJA>JoHA>nKA<8oHA>nLA>RoLA>nMA<5nNA<6oGA<FoNA>9oYA<5nO<BnPA>MoHA>nRA>4o",
  "HA>18oRA<1nSA<10oHA<2oSA>nTA<JoHA>oTA<6pHA>nU<NoU>nVA>16oȳL<15wL>2CvR<2EwR>2CnWA>GnYA<1UoYA>1BgƙƸ<2Lmɾ>1Mlǃ<1Olɹ>1MlΧ>OlǤ<8nɟ<22gƷƙAA>1MsI>9sU>3rE<5rI<8sI>rO>ArU<AsU>rǪL>VĚL>zR<WĚR>cNATE ƜƲ>1BSPhƐƲ>cTHODOX Ⱥ=7JAbSAGE ƢƃA>17YHwH>2wI<2xN>vBRA>1vѤ>vDHA>NvE<MwHCHA<1xKA>6xPA>7xTA>3ySA>1wIN<JvGHA>OvHA<OwYA>vI>vKA>wHA>JwYA<IvLA>vMA>vNA>vO>wIN>vPA>vSA>1wHA>vTA>wSA>1xHA>1vU>1vWA>vZA>2wHA>gƖƃA>4uH>2uI<2vN>tBRA>1tѤ>tDHA>NtE<MuHCHA<1vKA>6vPA>7vTA>3wSA>1uIN<JtGHA>OtHA<OuYA>tI>tKA>uHA>JuYA<ItLA>tMA>tNA>tO>uIN>tPA>tSA>1uHA>tTA>uSA>1vHA>1tU>1tWA>tZA>2uHA>cC=4DcMANYA ƥƬ>1FD6oǉ<3pȐ<1oǊ>4oǛ<8oƪ>5pIX<1oƤ<3pWO<1oǚ<2iƃA<AqA>4qLEF<RpBA>pCAYN>9pDEEL<5qHA>3pE>CqE>4pFA<FpGA<1pHA>7pI>3pJA<LpKAAF>BqHA<ApLAAN>ApMIIN>pNUUN>pO>6qO>3pQAAF<FpRA<7pSA>qHIIN>pTA<7pU>Npͪ<7pXA<FpYA>GbTTER>1CEOdOMAN SIYAQ ȎƹƬ<2GHğǉ<3ĠȐ<1ģ ƚ>6ğǊ<2ğƪ<2ĠIX<1Ģ ƚ>5ğʚ<2Ģ Ǝ>3ĠΚ<BĠWO<1Ģ Ǝ>AoȶǮʽ>1ěSIXTH>oMARRATAN<FoƹƬ<12Ě ƚ>HěƎ>8ĚY<Iě Ǝ>Qvɲ<UĚ Ǝ>QxVE<10z ƚ>HĚƎ>8wΦ<JĚ Ǝ>QxUR<10z ƚ>HĚƎ>8vǊ<Mz ƚ>HĚƎ>8zTY<Iě Ǝ>QvǛ<18y ƚ>HzƎ>8vƪ<LĚ ƚ>HěƎ>8ĚTY<IĜ Ǝ>QwIX<11y ƚ>HzƎ>8yTY<IĚ Ǝ>Qvʚ<Wy Ǝ>Qw˾<Pě Ǝ>Qxӵ<10Ě ƚ>HěƎ>8wȽ<Jě Ǝ>QxO<10y ƚ>HzƎ>8bUNCE Ə=6JPcTBOX TRAY>2KE6dLINED Ưȩ=7QLj˩Ⱥ<KjʆȺ>5jƨȩ<3MbVERHEATED Ǒ>2K7ReLAP<PQhPING Ưҁ=8N0mƨƍƯҁ<1sҁ<1fINE<29ObWL>2LHMbX<13BbYSTER>147aPACKAGE<XWcD=3KdDING χ<cGE>2R0Ue FACING UP<7FfƀȴӼ>7Ulإ<7WeR>ReS>6OdODA>77cHAWH HMONG CLAN ƙFAJ<RIHxHAM<2zWJ<6xKHAB>4yOO<6yWM>BxLAUJ<EyIS<1xMUAS>4xPHAB>2xTHOJ<2ySAB>zHEEJ<9zWB>FxVAJ<3yWJ>4xXYOOJ<ExYAJ>AyEEG<EoONSONANT AU<29xCAU>1yHAU<8xHAU<8yLAU>5yNAU>3xLAU<BxMAU>7xNAU>5yCHAU<4yKAU<6yLAU<2y",
  "THAU>AzSAU<ExPLHAU>CxQHAU<7xRAU<2xVAU<5xXAU>HxYAU<AnƥƬ>1Ftǉ<3uȐ<1tǊ>4tǛ<8tƪ>5uIX<1tƤ<3uWO<1tǚ<2nǴCIM HOM<RwKES<3xHAV>wSO<2xUAM>2wTAUM>1xUB<6nƹǕӠ>1AěS<3uӠ>1uЭBILLIONS>1yҤ<3xS<2vRILLIONS>5nƙAV>AsCIM CHEEM<1FxUAM TSHOOJ>1LwHAIS ӜNTOG NTOG<1wNRES TOS>4wPUB DAWB<1wTSOV ROG<1DxXWV>1AĚ CHWV>sHLI<GtNUB>2sIB YAM<11sLOS>18sMEEJ SUAB<1BxTSEEB>18tUS>2sNQIG<8tTUJ>1sTAU>3tHIRD-STAGE HLI<9tXHEEJ CEEV>6sVOS FEEM<1EwLUB>13wNRUA<XwSEEV<2wTHIAB<6yOM<3xSHAB CEEB>sXAUS>BtIAB>11tYEEM FAIB<17yNTXIV<3yRHO>yTOV>uOO>11sZWJ THAJ>2nƷKAAB<25wV>vB<5vIB<CwV>vUB<7wV>vV>HvWB<9wV>uEB<7vEB<8wV>vV>7uIAB>AwV>vB<JvV>uOB>EvOB<6wV>vV>5uUAB<3wV>vB<BvV>uWB>GvV>cLLAS=7N8dM BRANCH>1GKfǱ͹>2J15fԁ<1J3fʨ͹>1J3eS ʨЮ<CIeYRENE ΠԿ<1BJVmԂˎ<Nsֲ>Fṟ<Fr̉>1rƄ̢>9r̩<BrHE>1tTH>2r͇>2rʅ>rи>r̢>1rPE>2rӱ>1rϰ>r˛<2tΣ<3sζ>5r҅>sԽ<Erͪ<3rͫ>3r̜<3kƹǉ>MsȐ<1rǛ<3rʚ>4sΚ<3sȽ>3tO<5kʗԿ<2cNCAKES>1BL1dDA Ǒ<10IcPERCLIP>41cRACHUTE>14Jeםǰ=6CPjOS>2QTjUS ƕ>1PeLLEL TO<2EGjƀƒƋ>1QKoʺǄ>dENTHESIZED ƥƬ<1A0uǉ<3vȐ<1uǊ>4uǛ<8uƪ>5vIX<1uƤ<3vWO<1oՇϡ>2OJĜ A>Dw͆<FĚ A>DěU>5vɿ<FĚ A>Dvω<KĚ A>Dv̡<BĜ A>Dw̏<Oě A>Dvʲ<AĚ A>Dvʴ<HĚ A>Dvʟ<3Ĝ A>Dw̶<LĚ A>Dvʀ<GĚ A>Dvɉ<Bz A>Dvȫ<9Ĝ A>Dwˁ<Ně A>DoץALLIANCE>1AyCALL<5zԘ<3yΔ<8zՊ<8zNTERPRISE>LyFESTIVAL>2zINANCIAL<AĚRE<BĚVE<7zȐ<1yHAVE>EyLABOR>5yMETAL<AzOON<4yNAME>9zINE<CyǛ<8yREACH>YĚPRESENT<AĚӹ>4ěT>2ySELF>ĚVEN<SzIX<1zOCIETY>DzPECIAL>1zTOCK<4ĚUDY>9zUN<BĚPERVISE>Byʚ<JzΚ<7zWO<1yԉ>AzOOD>oKOREAN ˦O HU<FĠJEON<1oʆƢƃA>2GAAģB>ģC>ģD>ģE>ģF>ģG>ģH>ģI>ģJ>ģK>ģL>ģM>ģN>ģO>ģP>ģQ>ģR>ģS>ģT>ģU>ģV>ģW>ģX>ģY>ģZ>uƖƃA=78CġB>ġC>ġD>ġE>ġF>ġG>ġH>ġI>ġJ>ġK>ġL>ġM>ġN>ġO>ġP>ġQ>ġR>ġS>",
  "ġT>ġU>ġV>ġW>ġX>ġY>ġZ>oƹЊ<1CwΡ<7v͂>3w՝<1vН>4vϖ<2wӖ<1vʚ<6w΄>2wδ<1yNTY>7dROT>2KNOdT ALTERNATION ƕ=9J1eIAL ʝ<2T7iȟBACKWARD=3Wnʕ<1nɌ<nUP>hLY-RECYCLED ؂ƌ>7HSeNERSHIP Ə>2C2eY POPPER>2GQGcSSED ƌ=8OTfNGER SHIP>2INPeIVE-PULL-DOWN-OUTPUT ƌ=70XnUP-OUTPUT ƌ>ePORT CONTROL>2KA7cU CIN HAU ˔ǽ<17F1y Ͱ>2zVARIANT<8mƃA<RtBA<9tCA>uHA>6tDA<GtE>HtFA<3uΝK>9zL>3zM<2zN>ĚG>2zP<7zT>1zW>3zY>1tGA<RtHA<1tI>EuA>3tKA<QuHA>8tLA<8tMA>tNA>CuGA<9tO>GtPA<OuHA>GtRA>tSA<7tTA>2uHA>tU>9uA>tVA<KtZA<1nOW-FALLING ʻ>1AĜ Ͱ>2ĝ׳<4ġ Ͱ>2mMID-LEVEL ʻ<7Ě Ͱ>2ěȂͰ<1mˮʻ<Bx Ͱ>2y׳<4Ĝ Ͱ>2mѽ˔ǽ<1ğ Ͱ>2tʻ>1x Ͱ>1y׳<3Ĝ Ͱ>1cW PRINTS>16XCbDF=6CScI>1ObEACE ƌ>150eH>2J36eOCK>18OdNUTS<1QdR<170cDESTRIAN>O5cN ƣSTAMPED ́<8GdCIL=7PRdGUIN>2J2VdSIVE Ǒ>DOdTAGRAM=7OKcOPLE HUGGING>2KF1cR MILLE Ə=6CWeƏ>7VeЭңƏ<7VdCENT Ə=11dFORMING ARTS>2QO7dMANENT ؂Ə=7LQdPENDICULAR>8Zn ƀS>M6dSEVERING Ǒ>2IPTeʾBOWING DEEPLY>ZhCLIMBING>PBhDOING CARTWHEEL<4FhFROWNING<KRh̎LOTUS POSITION>P6kSTEAMY ROOM<2hRAISING BOTH נ̎CELEBRATION<P6hƀη=7P5nLOND Մ>2J5JmCROWN>18ZmFOLDED ѫ<VQmHEADSCARF>P1mPOUTING Ǒ<P3gAL Һ<B7ePECTIVE=6X2cSETA Ə<GVdO Ə>9cTRI ̳>2LH5bHAGS-PA Ɨ̌ƕ=X9XjƃA<OrϊYA>FrSPIRATED FA>2qBA<YqCA<AsNDRABINDU>1ArHA<1AqDA>4rDA>WrZA<PqE>DrE>5qFA<2qGA<YrGA>YqHA<9qI>1qJA<OqKA<6rHA>qLA>NqMA<AqNA<4rGA<8rNA>14rYA<11qO>PqPA<LrHA>qQA>KqRA<AqSA>2rHA<1rȸA<4qTA<ErHA>rSA>6sHA>rTA>NsHA>qU<Bq˹HA>FvLESS ѿ<1qWA<RqXA>FqYA<CqZA<2rHA<1jǴƗΰ>Yoΰ<1jʌ̌ƕ<2kͩƃRA<3ĚWA<AĚYA>lPERFIXED ƃRA>9dISTOS DISC ƙƆ>HNQtBEE>NwHIVE<AuOOMERANG<6vW<7uULLS Җ>GtCAPTIVE<OvRPENTRY PLANE>EvT>9uHILD<OuLUB>7uOLUMN>9vMB<2xINING ɎƋ>OtDO",
  "LIUM<QvVE>BtEAGLE<1tFLUTE>9tGAUNTLET<XuRATER>Xtע<ZuIDE>JuORN<1tLID<9vLY>LtMANACLES<PvTTOCK>tOX Ԧ>OtPAPYRUS<3uEDESTRIAN<10uLANE ԁ>XvUMED Ґ<XtRAM>RuOSETTE>7tSAW<MuHIELD<4wP>CuLING<3uȸAXE>LuTRAINER<1tTATTOOED Ґ<14uIARA>5uUNNY>NtVINE>2t҉BAND>8uOMAN<13cILIPPINE Ɨǜ=4L2lʌǜ<1cOENICIAN ƃѣ>1BRTtLF<FsBET>sDELT>1sGAML<1sHE>1uT>2sҪ>2sLAMD>sи>s̢>sPE>2sQOF>1sROSH>sSADE<2tEMK<3tζ>5sTAU>tET<DsWAU<3sYOD>3sZAI<3lƹǛ>Fv ƚ>2sʚ<2tΚ>3tȽ<3uO>1lдǰ>4dLUS=8NVbICK<ZWeʨTRUCK>2JORcE>H7cG<11Td Ǒ>WeNOSE>5cLCROW Ə=52dE ȕPOO>2QR6dL<VcNATA>16IdCHED ̈́<AHfɜ͹>2dE ׌<136eAPPLE<1SdWHEEL ȩ=7QNcSCES<64dTOL>2JFBcTCHFORK=6VOj ƀTEE TOP>1L1bLACARD>2JM4eE ȕINTEREST Ə=6XKjWORSHIP>2KDZdNCK CONSTANT=6J2p ƣȉPI>dYGROUND SLIDE>2KSTeɜCARD ACE ȕ˻<170uɃ<Guɦ<Guʙ<GnԦ<1oͲ֕>1Anʯȕ˻>8wɃ<Gwɦ<Gwʙ<Gnɖȕ˻>18vɃ<Gvɦ<Gvʙ<GoOOL>1MpUR ȕ˻<CvɃ<Gvɦ<Gvʙ<GnJACK ȕ˻>1IvɃ<Gvɦ<Gvʙ<Gn֖ȕ˻>1EvɃ<Gvɦ<Gvʙ<GoNIGHT ȕ˻>19xɃ<Gxɦ<Gxʙ<GnМȕ˻>18vɃ<Gvɦ<Gvʙ<GnQUEEN ȕ˻>1FwɃ<Gwɦ<Gwʙ<Gnϯ֕>Hn̗ȕ˻>NwɃ<Gwɦ<Gwʙ<GoԔȕ˻>1AuɃ<Guɦ<Guʙ<GnЭȕ˻>1FuɃ<Guɦ<Guʙ<Goѭȕ˻>14wɃ<Gwɦ<Gwʙ<GoRUMP-1>1Pu0>8u1>u2>u3>u4>u5>u6>u7>u8>u9>t2<Hu0>Hu1>t3<It4>t5>t6>t7>t8>t9>oˢȕ˻<NuɃ<Guɦ<Guʙ<Gnƨ֕>1OcD=3VcU>dNGER>2RYRdS Ə=17j ǈɡƏ>8CMk̎ƜƻƵ<1XnƐƻƵ>nƧ>AkƀƯƧ<HpɪACCENT ƅ<5pƽƇ>1pƖǟƅ<3qϙΈ>4pʺƅ<3vƇ>1e-MINUS Ə=4XdTO>7F9f ʰǉ>13ImȐ<1lƤ<1mWO<1bM=4EbOCKET CALCULATOR>2QYYcLICE CAR>6HkS REVOLVING ȱ>KhOFFICER<FUcODLE<1XcP DIRECTIONAL FORMATTING=6CSqѯ>1OdCORN>2K9HcRTABLE STEREO>AMcSEIDON=8O7dITION ˕<1QPdTAL Չ>2K0Ohƕ=9HUl Ǒ>DeԪ>2HFXcT ȕFOOD<AKdABLE WATER ƌ>N1eTO>IRdӻPLANT>9RcUCH<193dLTRY Җ<7AdѴƏ=4JdȑLIQUID>2RZNdTING ԮǑ<WPiǑ<TcWER ʾƌ=",
  "73Xi-OFF ƌ<1gSLEEP ƌ>1hYMBOL<3bRAYER BEADS>2JURcECEDES=6T6i ǈʿƫTO>1MKpɡƏ<4pʇʿƫTO>5tƫTO<4p͓ɡƏ<6ěʇƫTO>1jԫʇЋTO<1JDjʵƫTO<30pʐTO>1jԅЦ>1DdGNANT җ>2L8Yjͣ>jWOMAN<B8d؏TAKE=6JIeENTATION ʰʼƊʍ>17N8ġMMA<3ğEM ̊>WĠN ̊>Ġˉƕ<Tğƒ˒>3ğͅɂ<8īǻǽ>ğƜȚƓ>18ĤƯɬƓ<4ĤɰƓ>5ĥϚƓ<AĤƗȚƓ>5ĤƲ<8ĤɁƓ>HĤȣɈƓ<EĤƨɰƓ>9ĪɬƓ<18Ġҭɮ>RğǗƕ<TğƐȚƓ>15ĥƯɬƓ<4ĥɰƓ>5ĦϚƓ<AĥƗȚƓ>5ĥƲ<8ĥɁƓ>HĥȣɈƓ<EĥƨɰƓ>9īɬƓ<18ĹKCET<ğ˜<4ğȉƽׯ>Rğ҉˗ɮ>3dTZEL>1DMBdVIOUS PAGE=713cIME<O5dNCE>2LFLgSS<XOeT SCREEN ƌ=715fER>2K26h ICON>DdVACY MESSAGE=4EfTE USE Ǜ<DmΈ>l-1<1m2>cOBING CANE>2RRWdHIBITED Ə<KOdJECTIVE=6X1dPERTY ɮ<CBeORTION>6KkAL TO<QdSERPINA>1X6bSALTER PAHLAVI ɗǇƀȺ>1876ğɑ>qƃˎ<Sx̱>x̉>1x̩<1xHE>1zTH>2x͇>1xʅ>xMEM-QOPH>x̢>xPE>1x˛>zΣ<2yζ>2x҅>xԠ<Cxͫ>2x̜<2qƹ̂>11xǛ<3Ě ƚ>5xʚ<2yΚ<2yȽ>2zO<4qɆƕ<Hq˷Ɇƕ>bU1=41c2>cBLIC ADDRESS LOUDSPEAKER>2QTRcNCTUATION ʸ=6BSgS ELEVATUS ƕ>2THcRPLE ˽>2HQLdSE<1TcSHPIN>34cT LITTER ̎ITS ӯƌ>DDa˚ƿǷ=7FApƩ>jǐǷ>t ƍƿƜƍƿƩ>ĞƩ>yǐƐƍƿǷ>ĮƩ>pƩ>u ƍƿǷ>ģ ƍƿƩ>fUPLE INTEGRAL Ǆ>VGk֣<1X1dRTER ͻ>175dTERNION INTEGRAL Ǆ>Q4cESTION Ǭƕ<1XQjƕ=1RiӀƫTO>6QNcINCUNX>UZcөƕ=YaRABBIT>2QQSg Ǒ>14cCCOON>12KdɜCAR<15BhMOTORCYCLE<1cDICAL ȗ׀=71ZeO>2JWJf ׂ>SfACTIVE Ə=7J6cILWAY CAR>2JQ8iTRACK>2OdN=7NQeBOW>2IWXdSED պȕ͹>175hɂ=94Khɑ<1kӻӕ͡<18hFIST<1DPh͹>l ƀɳSPLAYED>2JD0rPART ̆Ƒƍȑ̈́>5hӕ͡=93AhMC Ə>2H5ViD Ə>iR Ə>hǋ=93FcM>2HOJcT<FdIO=6RAcZOR>2LAZbECEIPT<44dORD ǰ=UdREATIONAL VEHICLE>2R96dYCLED ؂ƌ=7LOgɜȗʼGENERIC MATERIALS<2vTYPE-1 ̕<7Ě2 ̕>Ě3 ̕>Ě4 ̕>Ě5 ̕>Ě6 ̕>Ě7 ̕>cD APPLE>2J10eGIFT ́>1AWcFERENCE ƕ=6D7cGIONAL INDICATOR ȗƃA>2JZEġB>ġC>ġD>ġE>ġF>ġG>ġH>ġI>ġJ>ġK>ġL>ġM>ġN>ġO>ġP>ġQ>ġR>ġS>ġT>ġU>ġV>ġW>ġX>ġY>ġZ>eSTE",
  "RED Ə=4UcJANG ȏƙH>XB7wN<2xG<1wR>1hƃA<BoBA<FoCA>1oDA<5oGA<3oHA>FoJA<7oKA<AoLA>DoMA<6pBA>9oNA<DpDA>EpGA<IqGA>GpYA<8qJA>9oPA<FoRA>6oSA<1oTA<9oWA>CoYA<1hɆƕ>VhǤ<CiΨƙAI<9tU>1sE<3tA>4tU<1sI<6sO>3sU<3cLIEVED Ǒ>1TQBcMINDER RIBBON<HHcPLACEMENT χ<1C4AcSPONSE=6JJdTRICTED ƜENTRY-1>14Ww2>fOOM>2JMHcTURN Ƿ=8LShƩ>hƌ<1J7cγCHECKER ս>2K6OiǼ=3Xiȡɗǲʥȩ>2REIk׹י=3Xiˆ<1Dp Ǆ>87Sq؄ͧ<FHqƀƒƋ>FIiʺқǈƾƆ>95ĝƔƆ>5hD Ё<BOo ƀǩ>1jɂ>WRjƗ֣<2RVv ǆƕ>352qȪʇƏ<10WjEMPTY SET<8TjFORKED ֠>V4j̪ƀƑϣEXTENDED>2HZ7jʇƏ=6XCjPILCROW Ə<JPkRIME<MjǗƕ>2RCjɕ̪ƀɳSPLAYED>2HYAkɶЁ=8OUkϭFLORAL Ӎ̇<15XjǸƢL<YEkEMICOLON<6SjTHUMBS ǱƏ>2KOZqʨƏ<1kILDE=6RHo ӂ>3Zkї֣<IEjVICTORY ͹>2KPOdOLVING ɦ<6UbHINOCEROS>Z4bI=3XcAL Ə>1E26cBBON>1CHVg ǦǱǷ=8MOsƩ>nƜʕ>4sUP<2nƐʕ>2tUP<2nʨǷ<3qƩ>cCE η>2I05fCRACKER<1cFLE>165cGHT ƍƿǮȥǥ>FSkǐǮȥǥ<1iGER ͛<13JjLE=6QNl Ɠ>2QXt ƀɑ<19Zmȿ̮͡>VIm̮͡<1mǾƀǋ<V8mƀARC<1CUrǔ͘Ɔ>59hRC ȮƓ>17BiROW ƀȴФ<BKrƖƵ<16OgƯɬƓ>2SCmȣɈƓ<1A1gϠ<1ANhѐƓ>2KJhϚƓ=3Ht ƿơ>6Y7uƑϑ<1uǐơ<1gȿ̮Ɠ>21LiȔȚƓ>EDo֨ƀάҐ<1AZnƲ>XKnǆƕ<2RWnWIGGLY ӄ>1X9g֋ȓ<2MiԆɛǥ>2K23hLOOR=6X7gƻƯƵ>JVrȩ>175nOCK<195lӇ>2KVDlǙ͒<19lRUNNING җ>11iѴؙӴ<186g˗֡Ɠ=93XgϫԾ֪ʋ<28JgǮȥǥ>JUkȹǥ>2KTThρЫɑ>1GhUTER JOIN=7VAgƲ=15r ʢ>705sƿơ>sǐơ<2gɕOMISSION Ɠ>226gS-SHAPED BAG ҍ<18Nhוʋ<ZEiVEN ɛǥ>2LDQhГU Ɠ=947iNGLE ǆƕ<2RYhPEAKER>2KPAn ƀǮʘѡ>tƶʘWAVES>jECH ͛>3IhΫƓ=2Lu ʢ>6YVvƿʔ>vǐʔ<2vƀƗƋ>243Ě֥<2S2ĚƋ>2RZĚTICK ̎ʜʔ<Y0Ģ̾ʔ>1Ěǩ<4hղƓ>VQg̃<28XhHIRD ƨƐƦǼ>2LGGiOUGHT ͛<15Iiѕɛǥ>13Umʈǥ>1hORTOISE ɈƓ=9HXhԜƓ<EJiIANGLE<28Bo ǈƜƧ>1E6mаǮȹǥ>2JZ3gƊ̄ƀ֥=941qOX ɮ<220gƨɰƓ>2FPnϚƓ<1AJmɬƓ>1AQmƲ<1APmɁƓ>1ASmȣɈƓ<2hIGGLY ӄ<18Gf-FACING خETERNITY Ə<764nFIST>2QOEnSVASTI Ə=34Ly ƀʃ",
  ">1gHANDED ֔ҝ>4JXgƦȚƓ<QJpѥȚƓ>1CIpƗȚǆƕ=57p֙Ӌ>2QTUgϴƨƔƆ=7U1hIDE ҴнƆ>B2gTO-LEFT EMBEDDING<1SDoѯ>1Noƕ<2GoOVERRIDE>Uf̪INTERIOR ʋ>1ZIfȢƆ<1PNq ǈʿƫTO>1K2xʷʿƫTO>CYğʺǄ>3xȖƾƆ<EIxʺǄ>1DsѴǐƍƿǮȥǥ>2K3LrȻȊ=6NAz ɊƯǺ>1H5rƣƾƆ<1GCrʒǒ>1VIzSUPERSET>zX<E5sO Ȋ<1GIvͲǺ>1FCrƀɰɒ<1GQwȿؑ>1GCyȔƊƋ<1EEwǁƞ>2KUYwơ=6NEwȷǠƞ>2KWVxOOP=6NGwǙǠƞ>2KWPwΥȓ>43wƟƇ=85HwƖǁƞ>2JF0ĜǠƞ<Gxʹ=6MZwȓ>7Ě ƀƗƊƋ>1GXĠƊƋ<1xIP ɒ>E1ĚΉ>wƊƋ<1SNqշ>1EPlԧ˝ƨƆ>2JKEmͲƆ=8LXrȴƨƆ<Bm؀ϴƨƆ>2J2UlɫƆ<2Rl˨Ɔ=6OYmȌƆ<Gx ȻȊ>1F8yƀƋ<1FCĝƊƋ>1F7xշ>OsˏƆ<Fl̓Ɔ>2JHKmզ˝ƨƆ>38l͹>G5nӷƣƾˀ=6OCtƀǎǱǈƾɄƀǎʕ>1I4Ģ̅Ȃ̊>3ĢȻȊ<EĢɊȊ<8ġϜ<1HYĝʨǈƾɄƀǎUP>1IEħͼ̊>3ĦƔɄƀǎʕ<8ĠȻȊ<9ĠɊȊ<8ğϜ<1HVmѦƆ>2KXXrɫƆ<4lՒƨƆ>2SlϬƆ=6PQl̥ʂ<1HlʶƆ>1VGlԞƨƆ>2J4UmOCKET<FRlǸƆ>DFmѹƆ<OoIGGLE Ɔ=6OTl̾ϴƨƆ>2KZPmШƞ<HtʪƆ=8KIĠ ƣƾǡƆ>VġɊȊ<Gġƀΐʁ>2J07ĦƗƒƋ=8L8ĭƊƋ<Ħǝʁ>2J01ĦȂўɒ=8MFįΉ<2ĦǙʁ>2IYOĦϪʁ<4Ħ́ǝʁ>Fě˨Ɔ=8KSě̥ʂ>PoѓƆ<1WRsˏƆ>1F7mˢѬƆ<1GVoʪǦȻȊ>1GKĜƀƗƊƋ<4ġȓ>Kĥ ƀƗƊƋ>1īƊƋ<1ĢШΏ>K6ġƊƋ<KUwɣˏƆ>FlԊƆ<1GZmӐƆ>22w Ȼҥ>7xΊǠƞ>2KYTcNG<SPe ƅ=KAfBUOY>2QROfƫTO=6S7f̎ƫTO<1fǄ<1QfPOINT>2DZeӀPLANET>2IXReɜBELL<10JcSING ǌǓЌː=84RzˍɱƆ>4bLE<1S5cI>1NcM<2GcO>UbOASTED SWEET POTATO>2KA9cBOT Ǒ>14LcCK>B5eET<TKcLL ȕPAPER>OQeED-UP NEWSPAPER<T9fR COASTER<FWhSKATE>NTeɜʾ̽фLAUGHING>FAcMAN AS Ə<1CW9gCENTURIAL Ə>gDENARIUS Ə<5hIMIDIA SEXTULA Ə<2hUPONDIUS Ə>4g̔Ƭ=6LJpΡ>2oɲ>1t EARLY Ɓ>PuƎ>qVE<Zs ƚ>9tƎ>IpȐ<UoǊ>4oǛ<8r ƚ>Cz Ǝ>QsƎ<PĚ C D>GoȀǮƚ>2oƪ<TpIX<1r LATE Ɓ>Voʚ<Sr Ǝ>OpΚ<Wpδ>8qO<AgQUINARIUS Ə>18ADgSEMUNCIA Ə<5iSTERTIUS Ə>5iXTANS Ə<8kULA Ə>2hILIQUA Ə>1gUNCIA Ə<4cOSTER>1BWHcSE<62eTTE>57cTATED ƢQ=6KAiFLORAL Ӎ̇>17WiǝƯӍ̇<2iȡɗǲƯCUSP>VBiƨɗǲCUSP>1cUND PUSHPIN>2I9Pgؘ>JHfӀȗʼCAI<10MtFU<5tLU>tSHOU>",
  "vUANGXI>1tXI<1cWBOAT>U7bS=UbȔƏ>6FYcGBY FOOTBALL>2K97cLE-DELAYED=8ACcMI ƥƬ>194Ilǉ<3mȐ<1lǊ>4lǛ<8lƪ>5mIX<1lƤ<3mWO<1fȶǮʽ>Ps˭>sTHIRD>oȉ϶>fƹʯƚ<5rY<9mɲ<3oԆƚ>8nΦ<AoUR ƚ>8mМƚ>4qTY<9mǮƚ>m̗ƚ>5rTY<9nԔƚ>7pTY<9mʚ<5n˾>1oѕƚ>8nȽ<AoO ƚ>8cNIC ARLAUG ƌ=4J2gBELGTHOR ƌ>1gоǜ<3gƃAC A<1VoESC>oLGIZ EOLHX>ToNSUZ A<XnBERKANAN BEORC BJARKAN B>15nC<5oALC>LoEALC>pN<1DoWEORTH>1AnD<HoAGAZ DAEG D>CoOTTED-L<3uN<RuP>JnE<IoAR>ToHWAZ ӁE<AoNG<WoTH<FnFEHU FEOH FE F<7oRANKS CASKET AC>2EĜESC>ěEH<2ěIS<1ěOS<1nG<1RoAR>2oEBO GYFU G<1pR>CnHAEGL H<9pGLAZ H<1nICELANDIC-YR>19oNG<BqWAZ<1oOR>4oSAZ IS ISS I<WoWAZ EOH>5nJERAN J<4nK>19oAUN K<1PrA<2nLAUKAZ LAGU LOGR L>13oONG-BRANCH-AR AE<LzHAGALL H<9zMADR M>RzOSS O<18zYR>1LnMANNAZ MAN M<FnNAUDIZ NYD NAUD N<PnO<GoE>oN>oO>1UoPEN-P<UoS O<18oTHALAN ETHEL O>1HnPERTHO PEORTH P<NnQ>WnRAIDO RAD REID R<1KnSH>1SpORT-TWIG-AR A<18yBJARKAN B>CyHAGALL H<MyMADR M>RyNAUD N<QyOSS O<IySOL S>UyTYR T>3yYR>MoIGEL LONG-BRANCH-SOL S<SoOWILO S<1oկ>QnTHURISAZ THURS THORN<1RoIWAZ TIR TYR T>14nURUZ UR U<19nV<1nW>3oUNJO WYNN W>JnX>1CnY<1YoR<1nZ>16gMULTIPLE ǜ>Tgʌǜ<1gTVIMADUR ƌ>3dNER>2M6ReɜSHIRT ƀSASH<6cPEE Ə=6G8cSSIAN ԎȗBINOVILE>28DĜNOVILE<2ĜQUINTILE>ĜSENTAGON>1ĜTREDECILE>ĜVIGINTILE<5aS ̎Ƨ<FBbAFETY PIN>2JOQhVEST<1PcGITTARIUS=7KGcILBOAT>4KcKE BOTTLE ƍCUP>2IYOcLT SHAKER>18ReIRE=7IRdUTING Ǒ>2KLPcMARITAN Ǎƕ=1MEkƃALAF<1IrBAA>4sIT<4rDALAT>1rFI>CrGAMAN<ErIN>CsT<8sY<3rKAAF>5rLABAT>rMIM>r̢>rQUF>4rRISH>rSHAN>sINGAAT<6rTAAF>6sIT<DsSAADIY>8rYUT<8rZEN<3kǴȾ>IpօYUT>1pIN<5r-ALAF>pNEQUDAA>LpOCCLUSION<LlODIFIER ƃօYUT>1ĚI>DĚȖA<",
  "4kǯAFSAAQ>CxNGED>yNAAU>BxRKAANU<2xTMAAU<8wBAU<1wMELODIC QITSA>3wNEQUDAA<7wQITSA>8wSHIYYAALAA<4xȕMASHFAAT>7wTURU<2wZAEF<1xIQAA<2kƷƙA<LwA<3vE<3vI>CvȂA<8ěA<3ĚE<3ĚI>CĚU<3vO>4wVERLONG A<AğA<3vȖA>6wUKUN>6vU<5cNDWICH>2Q82dS-SERIF ǝƗˋǆǴƭ<KZy˷ˋǆǴƭ<1r˗ƗˋǆǴƭ>1lϧƭ>1cRI>LCcTELLITE<I3j ANTENNA<ENdURN=7K4cURASHTRA ȏƙHAARU>PRJlȰ>Pm˿Ƭ>9rǉ<3sȐ<1rǊ>4rǛ<8rƪ>5sIX<1rƤ<3sWO<1rǚ<2mȌȰ<1lƃA<25tA>tI>AtU>2sBA>MtHA>sCA<ItHA>sDA>AtDA<5uHA>tHA>4sE<OtE>sGA>6tHA>sHA>SsI<1AtI>sJA>JtHA>sKA<8tHA>sLA>PtLA>5sMA<9sNA<5tGA<FtNA>9tYA<5sO<CtO>sPA>LtHA>sRA>4sSA>4tHA<2tSA>sTA<FtHA>tTA<6uHA>sU<NtU>sVA>12tȳL<10ěL>ĚR<3ěR>sYA>XlƙƸ<17qǃ>1WqǤ<1sɟ<1VlƷƙAA>1FxI>AxU>2wE<5xE>wI<9xI>wO>9xO>wU<AxU>wǪL>2ğL>ĞR<3ğR>eOPOD>1UJDcXOPHONE<15QbCALES=7MEdRF>2KB0cHOOL<16Gg SATCHEL<2HcI=4AcOOTER>2R89dRPION>I5gUS=7KFcREEN>2JJ9eWDRIVER>YTdIPT ƢB=6JWpE>3pF>pH<12pI>4pL>1pM>WpP<RpR>2hLIGATURE ևƭ>2KPGhƖE=6JZnG<11nL>8nO>WdOLL>2KDJdUPLE=6IWbEAL>2LD0dT<Z7cCOND ӯӞ>WDdTION Ə=4NeOR>6SScDNA>1R1cE-NO-EVIL ׶>2IJ9dDLING<LZcGMENT=6XFhӀƥƬ>2LESqǉ<3rȐ<1qǊ>4qǛ<8qƪ>5rIX<1qƤ<3rWO<1qǚ<2cLFIE<JHcMICOLON=1NeDIRECT PRODUCT ƀʜ׆>8AEeSEXTILE<OOcPARATED ƌ>11CcRIOUS ͯƀSYMBOLS ҋ̒>2J3KdVICE ƕ=6JKcSAME ɑ>17OKdQUIQUADRATE=7NGcT К<X2eTRANSMIT STATE=43cWING NEEDLE>2RYLcXTILE=7NDbGC=49bHADOWED ƨƵ>7N7pʆȺ<1Bpȩ>HdLLOW PAN ȕFOOD>2K2VdMROCK=7IWdRADA ǍƏ>1AJYiCONTINUATION Ə>LiȰ<Oj˿Ƭ>Ioǉ<3pȐ<1oǊ>4oǛ<8oƪ>5pIX<1oƤ<3pWO<1oǚ<2jȌȰ<AiEKAM>JjXTRA ȖƷƕ<Eiх>FiƃA<2HqA>qI>9qU>1pBA>MqHA>pCA<IqHA>pDA>AqDA<5rHA>qHA>4pE<MpGA>5qHA>pHA>TpI<19qI>pJA>HqHA>pKA<8qHA>pLA>PqLA>pMA<4pNA<5qGA<FqNA>9qYA<5pO<BpPA>Lq",
  "HA>pRA>4pSA>5qHA<2qSA>pTA<GqHA>qTA<6rHA>pU<LqU>pVA>11qȳL<ZyL>xR<3yR>pYA>ViOM>Piѽƕ>4jECTION ю>Kv2>kPARATOR<NjλƸ<1Zoɾ>1Rnǃ<1TnƱǃ>26n˂<Dnɹ>7n·>Gnˇ<OnǤ<3pɟ<1QjUTRA ƕ>22iƷ˘ƕ<2oƙAA<OuI>9uU>1tE<3tI<8uI>tO>8tΪE>FtU<OuU>tǪL>2ĜL>ěR<3ĜR>eK>19SEdVED ICE<17LeIAN ƃADO<1B7IqGE>7qH<4qIR>CqRE<2rRAY>3qSH<KqWE>EpBIB<TpCHURCH<3pDEAD>3pEAR>XrT<DqGG<9qRR>JpFEE<14pGAG>8pHA-HA>6qأ<ApIAN>10qCE<CqF<CpJUDGE<5pKICK<FpLOLL>HpMEASURE<4qIME>4p̢>9pOAK>4qIL>1qN<CqOZE>AqR>3qUT<DpPEEP<SpROAR>TpSO<PqURE>pTHEY>7rIGH<AqOT<3pUP>XpVOW<MpWOE>4rOL>8pYEA<JrW>12pZOO<WcEEP>1BCHcIELD>JZdFT IN=Fgԙ<1dNTO SHRINE>7OAdP>2JLKcOCKED ͯƀEXPLODING Ґ>I4dOTING ȩ<173dPPING BAGS>Q4jTROLLEY>4dRT BACKSLANTED ˍƆ=8JZhENT ǦƦǔ҇ɩEAST>FgǱ̃<3Kp ƀɺ>7gƜ̃<9gƔǦǈƾƆ<BEgɼɩƆ>EHgʨ̃<32n ǈȖǱ̃>8oƀǩ<1fCAKE>2I6Ff̪FORMAT CONTINUING OVERLAP<ATRrǱSTEP>rƃOVERLAP<2rʨSTEP>2fS>C7JdULDERED ȠԪ=70DdWER>2KAPcRIMP>K0dUG<2HcUFFLE ʋ=89UcY=4TbI=FcDDHAM Ȱ>1IUQjȌȰ>iͷȕTEXT ƕ>5iƃA<21qA>qI>9qϊU>27qU<26pBA>MqHA>pCA<IqHA>pDA>AqDA<5rHA>qHA>4pE<MpGA>5qHA>pHA>SpI<18qI>pJA>HqHA>pKA<8qHA>pLA>PpMA<3pNA<5qGA<FqNA>9qYA<5pO<BpPA>LqHA>pRA>4pSA>4qHA<2qSA>pTA<FqHA>rREE-CIRCLE ȎI>1LqTA<1SrHA>qبȎI>1RĥI>pU<2EqU>pVA>10qȳL<YyL>xR<3yR>pYA>ViЧю>Uy2>y3>iɆǴƗə>6Ġ ƀRAYS>vƀЇƍɗז>6ĦRAYS<2Ħȉז>ĚƗʡ<5Ěʶʡ>1ĚRAYS ƍȿʡ<7ĪƗʡ>Īɣʡ>ĚSEPTUPLE ʡ>5ĚTRIDENT ƍȿʡ<9ĦͨORNAMENTS<1ĝѓʡ>7kPARATOR Ȋ<Dsɑ<1jλƸ<7nǃ<1nɹ>3n·>nǤ<2pɟ<1iƷƙAA<FuI>9uϊU>YĞU>uU<YtE<3tI<8uI>tO>8tU<8uU>tǪR>ĜR>dEWAYS ƯǱƦǼ>188BpƜƦǼ<7pƐƦǼ>pʨƦǼ>4jƨǱƦǼ<1pƜƦǼ<7pƐƦǼ>pʨƦǼ>4cGN ȕ̽HORNS>OPeWRITING AIR BLOW ƖROTATIONS<63Luɜԙ<2qSUCK ƖROTATIONS>2uɜIN<2mBREATH EXHALE>3tINH",
  "ALE<1oUSH ̟<89sʑ<1sǞ<1mCHEEKS ͋>7WtPUFFED<1tSUCKED>1n׿>2LoMMA<3mDREAMY EYEBROWS Ǳ͋<3DĜNEUTRAL ʕ<1ĤUP>2Ĝʨ͋<1nYNAMIC ˤș<PĞȃ<1uEVERY OTHER TIME>7uFAST<6uGRADUAL>6uRELAXED<4uSIMULTANEOUS>Ġ Ș>vLOW<4uTENSE>mEARS>1InXCITEMENT>1NnYE BLINK ʑ<2CwǞ<1qWINK>5pBROWS ˞ʕ<HĞ͋<1ĞUP<1pGAZE-FLOORPLANE CURVED>Tğɽ<4ħ Ș>1Ĩǧ<1uɐCIRCLING>3ğURVED<2Ğɽ<6Ħ Ș>1ħǧ<1pLASHES ʕ<3wFLUTTERING>wUP<2pS ׆<8rƻ׆>4wπ<2rπ<5rSQUEEZED>rWIDE π>4vNING ̓>1mͯ׎POSITION NOSE FORWARD TILTING<Lĩʨʵʕ>ĳ TILTING>nILL MODIFIER-2>41Ě3>Ě4>Ě5>Ě6>oNGER<XnLICK ȷʑ<9TyǞ<2sί>3tȸʑ<1yǞ<2oOORPLANE SHOULDER HIP MOVE>9FnOREHEAD Դ<2Mv͋<1v̙>1nԃǽ>38mGRASP ̟<AMsʑ<1sǞ<1mՄ>9UoND-ANGLE<DIw Ǽ<3KĜ ƑȜ>4IĤə<VĝȑȜ>1LĨ ԙ<1ĝɭ>1DĢ IN<1ģԙ<1xȲǼ<27ģ Ƕɘɭ<4ĵ ԙ<1ĞUP<8xƑȑȜ>1Pĩ IN<1Īԙ<1xȑǱƑǶɘȺ<11ĜȜ>5rƵ<1Px Ǽ<39ĝ ʬ>5ĞHINGE>5Ğ̻>1Ĥ оȜ>4AĪED<3ZĥȜ>3Tĥə<Uĥɭ<2WĞȑȜ>4ByȲǼ<QğUP<DyƑȑȜ>1LĪ ʬ>6ğUP<EyȑȜ<MsLAW<23v ɗɳȵ<TwɘǶ׊Ƕʖ>4FwƑȑȲȵ<JĲ ˳>w՘ɭ<33wǶɌ>Ĝ˳<2sUP>5u ɖɳӺ<QĨ π>vǼ<2AĚ ȑȜ>59ěɭ>17Ġ π>vƑȑȜ<Tv՘ɭ<2Nvπ<5z ՘ɭ>3ĚǶɌ>1Ġ˳<4vǶɌ>4ě˳<4tRLICUE>5z ɘȑȲON>1YĚƑȑȲON>IĚπ<2JrFIST>3Yv ɗɳCONJOINED ʬ<55wHEEL>55wǼ<78ě ʬ>5Ġ ƣ̻>MĜCUPPED<JĜ˪>Ģ LOW>ģƑUP>7Ĭ Ƕ˳>HĜ̻<OĢ ʬ>1ħ Ƕɽ>Gģȵ<CĬ CUPPED>2ĳ ǶɌ>Sĭ˪<Sĳ Ƕ˳>Oĭɘʬ<SĭƑʬ>ĭǶɌ>Sĳ˳<7ķ ʬ>1ĸȵ<1Ĥ֧Ȝ>3EĨED<3ZĪ Ƕ˳>Oģ˪<Xĩ լǶ˳>GģȜ>3Kģɕә<43Ĥ֓>38ħ ʬ>4Ĩȵ>ģ˞Ƕʬ<30ģɭ<2Ĩ ANGLED>Wį ԙ<1ĩʬ<SĩCIRCLED>6ĪONJOINED ˪>JĪUPPED<Lĩ˪>2ĪOOKED<1ģʨլǶɌ<3Ĝɕѱ<UĝɜȜ>4WĜǶANGLED ̎ƑUP<3JĩӪƑUP<1ĢƵ>4WĨD ƑUP<4VģUPPED ƑUP<5ĤRLICUE>4VĥԆǶʖ>ĮUNDER>1ĢFORWARD ɘʬ<5İɽ<1Ģơ>1ĦӀƑ˪<4JİUP<IĢ˳>4QĦ BOTH ʬ>5ħɘʬ<1ĭHINGE>1ħǶʬ<3ĭȵ<1ĭː<1ĜʨƑ˪<5NĬ Ƕȵ>Hĳ˳<1wȲʬ>37ĝʕ<Aġ OTHERS CIRCLED>2ĢRIPPLE CURVED<1ĩɽ<1ĝǼ>GĢ ɭ<4ĝɕѱ<5ĝɭ>2ĞOUCHES ɭ",
  "<1ĝUP<7wƑBENT ƣǼ<3Aĝʕ>4NĝȜ>7ĝɕѱ<4ĞɜȜ>4ĝǶANGLED ɘUP<3VĪӪɘԵ<1ĴUP<1ģȴɘ˪<7ıUP<1ĤUPPED ɘUP<2ģՈɘUP<6ģȜ>4AĝUP<5ğ Ƕ˳>2wȑʕ<UěǼ>BěȜ<7ě̻>3ġ ȵ>Ģɕә>ěɕѱ<7ěɭ>8ěUP<Awɭ>1Yě ̆ɘ̻>5İ ɽ<5RĤƑə>5RĤȑȜ>ĜɌ<3ĜHEEL<4Ĝƣɗɕә>Bġȉ̈́<3ĜSIDE ʬ<6ġȵ<1ġː<1Ĝԅɗ̈́>9Ģɘʬ<6XĢȲUP>3UĢƶ̈́>30ģˢ̈́<2sLAT<4Kv ̆PALM FACINGS>wɖɳӺ<Fĩ ʬ>3Īɗʬ<2Ī˪>8İ ՘ɭ>1ıǶ˳<1ĪǶɌ<6ẍ͎́<EĢ ʬ>ģȵ>1Ĭ SPLIT>ģ˪<2wHEEL>LĚ ɖɳӺ<FĮ ʬ>3įɗʬ<2ěǶ˳>EwSPLIT ț>3Ģ Ƕ˳>ĭ ʬ>ĜɘǶ˳<3ĜȜ>3wǶʬ<6ĜɌ>Ĝ˳<3rHINGE>Vw ɖɳլπ<14y͎ɳȵ<AxǼ<1ZĜ ˪>5YĝƑȜ<1HĤə<UĨ ȵ>4ĝȑȜ>1Fĝɭ>1AĢ ș<1ģπ<1ģ˳<HĤMALL>JxȜ<2Vĝ Ǽ>Nģ ɭ<5Ğɭ<2x̻>15ĝ ȑȜ>Bx՘ɭ<27xπ<7ě ՘ɭ>5ĜǶɌ<5Ģ˳>2xə>13ě ǱɘǶȞ̻>4xȃ<1AxǶ̆Ƒə>5ĝ˳<4ġ TOUCHING Ǽ>2sOOK<Ov CURLICUE<1wɘȑȲIN>2BĨԙ<1ĨUNDER>1wƑȑȲȵ>QĲ IN<1ĳԙ<1ĝɭ<Ewȑɭ<HrOVAL<1Uv ɖɳӺ<XwǼ<2BwȲUP>41w՘ɭ<SwȑȜ>1KwǶɌ<1KĜ˳<2nEAD>AUq MOVEMENT Ƶ>6zϝւ<1ĥɽ<2Ěɐւ>Ĥɽ<3ĤTILT>rRIM<2mLIMB COMBINATION>39rLENGTH-1>y2>y3>y4>y5>y6>y7>oP ƿƣUPPER<15qǐƣLOWER>pS PRESSED Ю<2nOCATION DEPTH>1Bv̌NECK>xՊ<3vLIMBS DIGITS>4vTORSO<1vWIDTH<3uϝʸ<2vɐʸ<1mMOUTH ʊԴ<1UzɌ<1z͋<1tORNERS>QsFROWN<Lx π>1y̙<1sKISS>Aw Ɍ>x̙>sȠƵ<BxɌ>xOVAL>1ě ̙>ĜYAWN>xͤ>Ġ ̙>ġYAWN>x̙<6sSMILE<8x π>1y̙<1sTENSE>Gx Ɍ>ySUCKED>sWRINKLES ǧ>5ěǞ<1oVEMENT-DIAGONAL AWAY ș<74ĨST>ģȋ<2ģȃ<1Ğ̆AWAY ș>9İST>īȋ<2īȃ<1ĦTOWARDS ș>5ĳST>Įȋ<2Įȃ<1ĞTOWARDS ș<6īST>Ħȋ<2Ħȃ<1vFLOORPLANE ARM ǟȦWALL ȷǧ>42ľǞ<3ĸǙǧ>1ĿǞ<3ĸƖǧ>1ľǞ<3ĠBEND<38ġOX ș>6Ĥȋ<1Ĥȃ<1Ġվ<1ġѐș<1ħȋ<1ħȃ<1ġROSS<6ġURVE COMBINED>2YĦȦЅș<XĶȃ<1Įфș>FĴȃ<1Ħș>GīST>Ħȋ<2Ħȃ<1ĠƗȘ<2XĲ ̚Ў>ħɽ<3ħ̚Ў>ĠϣЇȦWALL ǧ>3SļǞ<1ĨONTACT<5MĠHUMP ȦЅȷǧ>40ĻѠ>1ĵƖǧ<3ĻѠ>1ĭфȷǧ>DĳƖǧ<1ĳɣȷѠ>2ĺƖѠ<1ĥȃ>FĠJAW>3YĠLOOP ȦЅȷǧ<4PĻǞ<2ĵƖǧ>ĻǞ<2ĭфȷǧ>HĹǞ<2ĳƖǧ>ĹǞ<2ĥȃ>EĠPEAKS ș<2JĦȋ<1Ħȃ<1ĠSHAKING Т>2Rġӓ˞ș<3F",
  "ĵST>İȋ<2İȃ<1ħ̚Ў>3ĠɣԢ̓>7ĳ̚Ў>ħ˞̓<3ħ̚Ў>ĠԊȦЅș>29ĵȃ<1ĭфș>Fĳȃ<1ĥș>Dĥȃ<1ĦNAKE<1ġRIST ǟȦWALL ǧ>JĺǞ<1Ġ͘ș<36ħȋ<1ħȃ<1vHINGE Ǳί<2FěSIDE ɊSIDE ή>2ěʨǱԢș<2įȃ>ģș<5ģȃ>Ğί>vɐARM ǟǙǧ>5EıǞ<2ĪƖǧ>İǞ<2ğBEND ș<4PĤȋ<1Ĥȃ<1ĠOX ș>Bģȋ<1ģȃ<1ğΑș<1ĥȋ<1ĥȃ<1Ġѐș<2Ħȋ<1ĦROTATION>1Ħȃ<3ĠROSS<8ĠURVE Նș>2IĶST>ıȋ<2ıȃ<1ĦITTING І>Wĭ͜ҥ<7ĥȹș<SĲST>ĭȋ<2ĭȃ<1ĥ҇ɽ>MħREE-QUARTER ǟȋ<Eĺȃ<1ĤD оȋ>GĬȃ<1ğƗȘ<33ı ̚Ў>Ħɽ<3Ħ̚Ў>ğϣЇǧ>5DĮǞ<1ħONTACT<5LğHUMP ȦІ>3PĬ͜ҥ<7Ĥș<JĤȋ<1Ĥȃ<1ğJAW>5XğLOOP ȦІ<55Ĭ͜ҥ<7Ĥș<HĤȋ<1Ĥȃ<1ĩ ǧ>2ğPEAKS ș<26ĥȋ<1ĥȃ<1ğթ>2KĠӓ˞ș<3DĴST>įȋ<2įȃ<1Ħ̚Ў>3ğɣȘ>7ı ̚Ў>Ħ˞̓<3Ħ̚Ў>ğԊ׊Ɨș>2Tıȋ<1ıȃ<1Īɣș>4ıȋ<1ıȃ<1ĤǌPATH ș>PĲȋ<1Ĳȃ<1ĤȦІ<4Ĭ͜ҥ<7ĠRIST ǟ͜ǧ>1WĲǞ<1ğ͘ș<4MĦȋ<1Ħȃ<1mNECK>84nOSE Դ<1Kr͋<1rWIGGLES>2sRINKLES<1mƲ>2FmROTATION MODIFIER-10>Tğ1>ğ2>ğ3>ğ4>ğ5>ğ6>Ğ2<EĞ3>Ğ4>Ğ5>Ğ6>Ğ7>Ğ8>Ğ9>uϝȘ<5Jī ȦϠ<SĴFLOOR>EĠǧ>BĦ ȦϠ<SįFLOOR>EĠǞ>BĦ ȦϠ<SįFLOOR>EvɐALTERNATE<1AħɜȦІ>Eĳ͜ҥ<7ğǧ<9ĥ ȦІ>EĮ͜ҥ<7ğǞ<9ĥ ȦІ>EĮ͜ҥ<7nUB ̟<47qʑ<1qǞ<1m˜>AFnHOULDER HIP POSITIONS<RzSPINE<1vTILTING ȻWAIST>3nQUEEZE FLICK Ș<9Duȷʑ<8ĚǞ<2uί>3vȸʑ<1ĚǞ<2nTRIKE ̟<Atʑ<1tǞ<1nURFACE ̟>9uSYMBOLS<1mTEETH>98r BITE ױ>5s̓<5sʾױ>2z ̓>vӿ<3ě ̓>oNSE CHEEKS HIGH<1JzLOW>1z̻<1nONGUE ɠϦ̒>1DĚSTICKING ԙ<1tϦMOUTH RELAXED<2tLICKING ױ<3tMOVES AGAINST CHEEK>3tSTICKING ӪFAR<5tў̆ױ>1xTOUCHING Ϧ̒>oRSO-FLOORPLANE TWISTING>NsɐѥBEND<1Ĝ˞STRETCH<1oUCH ̟<A3sʑ<1sǞ<1nRAVEL-FLOORPLANE ЩȘ>3HĲǧ<1ĲǞ<1ħɐȘ>4ıǧ<1ıǞ<1Ğթ>2tɐARM SPIRAL ǧ<1GĨǞ<1ĨѠ>1ĝЩȘ<4ıǧ<1ıǞ<1ĦɐȘ<1İǧ<1İǞ<1ĝթ>5mǐBODY TILTING ȻHIP JOINTS>83mɐSHOULDER HIP MOVE<6cLHOUETTE ȕJAPAN>5FYcMILAR ǈȮǈɡƏ=8F4oʱǈɡƏ<1iяSIMILAR<1Fiʵǒ>1Dlǿ<1c׹ѡ<1NIdGLE ˦ш=4AhGRAPHIC ˦ш<1hґǆƕ>681hΠȚǆƕ>TiOW-9 ǆƕ<Vhʗ",
  "Țǆƕ>VhSHIFT Ƥ=3ZoWO<1g-SHIFT-2<n3>dHALA ҵƥƬ>1HZSwǉ<3xȐ<1wǊ>4wǛ<8wƪ>5xIX<1wƤ<3xWO<1qƹה>Exɲ<3yΦ<1x׺>4xǮƚ>ěƎ>xը<4yIXTY<1xʚ<5y˾>1yȽ<1iƃAAYANNA=2O6qEEYANNA>1r͵<1qIYANNA>BqLPAPRAANA Ԩ>YĚCAYANNA<MĚ΂>Eě΂<6ĚՂ<DĚՌ>5ĚKAYANNA<8ĚPAYANNA>PĚ҆<7ě҆<6qMBA Ԩ>HqUYANNA<Zq͵<HpDANTAJA LAYANNA>1JxNAYANNA<CxSAYANNA>HpEEYANNA<1Dq͵<1pFAYANNA>1GpHAYANNA<2pIIYANNA<1MqLUUYANNA>5s͵<1qRUUYANNA<1s͵<1q͵<4pKANTAJA ׸>KpMAHAAPRAANA Ԩ>OěCAYANNA<Mě΂>EĜ΂<6ěՂ<DěՌ>5ěKAYANNA<8ěPAYANNA>Pě҆<7Ĝ҆<6r͵>FqUURDHAJA LAYANNA>CzNAYANNA<QzSAYANNA>MpOOYANNA<19q͵<1pRAYANNA>12pSANYAKA ΂<8y΂<7xՂ<DxՌ>6pTAALUJA ׸<2xSANYOOGA NAAKSIKYAYA>z͵>RpUUYANNA<1Hq͵<1pVAYANNA>1GpYAYANNA<6jITH ƥƬ>1Ftǉ<3uȐ<1tǊ>4tǛ<8tƪ>5uIX<1tƤ<3uWO<1tǚ<2iǯKUNDDALIYA>DiƙAL-LAKUNA<16oNUSVARAYA<20nǃ<1nVISARGAYA>1iƷƙк>23tDIGA ֶ>1yՁ>WĚYANUKITTA>yIS-PILLA<WyKOMBUVA>6yPAA-PILLA<4tՁ>1vYANUKITTA>6tKETTI ֶ<FzIS-PILLA>1zPAA-PILLA>1uOMBU DEKA>6yVA<2Ě HAA к>2ğDIGA к>ğGAYANUKITTA>cX PETALLED ƯƍƨFLORETTE>50FfOINTED Ưȩ<8mʥȩ>2JRQmSTAR ƀƑɑ<IMd-PER-EM ʸ=6BQdTEEN ǲǂ>1F7bKATEBOARD>2JLQcI ƍSKI BOOT<MYdER=7P3cULL>2J60f ƍ׉=7J4dNK>2KCNbՑƫɊʵǒ=8EUĠ ƀƽʖ>1uǿ<3ĝ ƀƽʖ>1iɩǦƀՈҐ>5EěҞȓ>1dVONIC ǂ>OBAcED>1UGZdEPING ACCOMMODATION<17jǑ<48jƌ<B4fY Ǒ>ATdUTH ʵSPY<51cICE ȕPIZZA<F4dGHTLY FROWNING Ǒ>KRj͔Ǒ>cOPE=6YBeɜȷָ>1ESoOR<1dT Ք>2IC8eH>16Cbȸ΋<JGhMPERSAND<1D3Dh҃>gBLUE Ǻ>1CRBgʍ<1CROiMMA<5kѨAT>QiNTAINS AS ׵=6Q5pƀɺ>6OuƊ̄ҧͷȕƒƋ<2gDOLLAR Ə>17CCgELEMENT OF=6Q2q ƀɺ>6KwƊ̄ҧͷȕƒƋ<3hM ̊>17C3hєƏ>Dhˉƕ<Fgǻǽ<5gȮƏ>Igϥ<2gͅɂ<IgƜʭƓ>9lƲ<2lȣɈƓ>3iЬƏ>6gƹƏ<5gORANGE Ǻ>1CRCgУƏ<1CR2hӜƏ<8gǗƕ<Cgʷˆ>HhɶʭƓ<CmƲ<2mȣɈƓ>3hOMAN ̔Ƭ=6LZvΡ>2uɲ>1wVE<8y ƚ",
  ">9vȐ<BuǊ>4uǛ<8x ƚ>CyƎ>1uƪ<9vIX<1uʚ>3vΚ<7vδ>8wO<Ag˜>17MQgǏ=KChˢǇƣǮƽǜ>1G7YgVEE ƀǩ=8DDfחTHAN>20m ʵƫTO>1dSH ʋ<3DcILE<1E8eɜԮͯƀHEART-SHAPED ͸>2K9JwȠ̒<1iͯƀHALO<1FtEART-SHAPED ͸>5tORNS<5sȠ̒<5Ĝ ƍCOLD SWEAT>1ġ͔͸<1ġү͸>1s͔͸>3Ğ ƍ̪ҋ̒>MAģƶɦ>1UtUNGLASSES<O2sTEAR>O3dRKING Ǒ<O3cOKING ƌ>4CbNAIL<IOdKE>cEEZING Ǒ>109cҭCAPPED ӡ<11VeBOARDER<IeFLAKE=7R8eҗ<8Xh WITHOUT SNOW>5CbO=EcCCER η>7N2dKS>2KA0cFT Λ=4TfICE CREAM>2QIGfɈՀ׏>G5eη>PTeWARE-FUNCTION ƌ=710cGDIAN ɥ׊ƅ>1AK5yƇ>sƽƅ<3wƇ<2sȞƅ>5xƇ>sȂȞƇ>sRESH Ƈ>sȪƇ>sȉǇƅ<7ěƇ<2iɷSHIN<2iƃˎ<Lqֲ>Cp̱<CpFETH>Hp̩<HpHE>rTH>2p͇>1pʅ>qESH>Apи<Ap̢>pPE>2pRESH-AYIN>1p˛<1rΣ<3qζ>4p҅>pͪ<Epͫ>2p̜<2iƹǛ>Rs ƚ>2pʚ<2qȽ>iǯǟƀɑ>3uƻǟƀɑ>1uȉЇƀʃ<1yƊBARS<3ĥ ƀʃ>cH=1cLID QUILT Ɂƭ>2R8Oě ̎Ưǋ>fUS=1Bh ƀɺ>892cM Ə<1TIcʾƀƔǦƅ>2KIJcRA SOMPENG ƥƬ<192Ctǉ<3uȐ<1tǊ>4tǛ<8tƪ>5uIX<1tƤ<3uWO<1tǚ<2nƃAH<EuBAH<GuCAH>uDAH>uEEH>EvH>3uGAH<Iuҩ>8uIH>5uJAH<4uKAH<1uLAH<7uMAE>FwH<IuNAH>2vGAH<2vYAH>9uOH>4uPAH<BuRAH>1uSAH<Duծ>uUH>JuVAH<BuYAH>1cS=48cUND RECORDING COPYRIGHT>6F2dTH ɱƆ>3Kq ƍˍ̘Ɔ>1HSrǓɩɱƆ>3rɊʔ<1FFrƀơ>1F6lƯƆ>DGlƗƆ<1TElƦBUD>2KJUu̐<Guϛ̐>7lǸƆ>E2lǡƆ=8KOĠ ɊȊ>FlƨƆ<3Ag̘Ɔ<1UXq ƍɩ̘Ɔ>1HSrƀơ<4lƯƆ>DGlƗƆ<1TElƦBUD>2KJRu̐<Guϛ̐>7lǸƆ>E5lǡƆ=8KPĠ ɊȊ>FlƨƆ<3AcYOMBO CLUSTER-INITIAL ƃLA>1BB7ğRA<1ğSA>2ĠHA<1iƄȏƙ-A>CĝB<6ĝD<2ĝG<3ĝK>ĝL>6ĝM<2ĝN<2ĞG<2ĝR>4ĝS>2ĞH<1iАƕ>4ǐǴƀόƍSUN>7ģ ƍFLAME<1ĨɣFLAME<1iƃ-A<10pA<16pBA>XqHA>pCA<IqHA>pDA>AqDA<5rHA>qHA>4qZA>8pGA<PqHA>pHA>YpJA<VqHA>pKA<8qHA>qSSA>11pLA<6pMA<9pNA<5qGA<FqNA>9qYA<5pPA>AqHA>pRA>ApSA>4qHA<2qSA>pTA<LqHA>qSA>8rHA>qTA<GrHA>pVA>MpYA<3pZA<2qHA<1iǴƗΰ>ZnPLUTA>nΰ<2n҈<1iƙƸ<4n˂<Inˇ>n͗>HjUBJOINER>1iTERMINAL ю",
  ">7w2>iƷɔƕ<1ZoƙAI<4uU>tE<4tI<3tO>3uE>tU<3uE<1tǪL>7ěR<1bP=WcA>39dCE=WdGHETTI>2QM4dRKLE=7RBhS<Vgɜ˽>2J59cEAK-NO-EVIL ׶>C3fER<8Yh ƀθƋ<1nǮʘѡ>1nƶʘWAVES>fɜ̌̎њ>60dECH BALLOON<8NeDBOAT>DZdSMILO Ə=6GNcHERICAL Ё>A2p РǷ>1H9yUP>cIDER>2ITXg WEB>dRAL CALENDAR PAD>2IhӣPAD<1hSHELL<C8cLASHING SWEAT ƌ>3VcONGE>11YdOL ȕTHREAD<8eN<4XdRTS Ӟ<133dUTING WHALE>31bΫA ƣM=A8ViARU<64iM>5AiNPEA<5CiPAATO<2iRUHUA>iU>35hBAARERU<1YjR>1YiEETA<1KiIRU<BiORUTO>CiQ>3OiUSSYERU<3ZhC ƣKG>41iAL<1QjP<3CLiC>3E8iD>iM<14j ց>6kɢ<4iO>12jRPORATION<20iUP<3CBhDA>3BXjASU<26iB>4JiESI<4JiJ>2G6IiL=A6ViM<Wj ց>1kɢ<1iORU<2AhEEKAA<UiRA NAME HEISEI>36qMEIZI>2qREIWA<3JqSYOUWA>3GqTAISYOU>jG<4WiSUKUUDO>1LiV<1LhFM>5MiOOT<34CjUR Ϣ>MGhGAL>2KOjNMA<6OjRON<1iB>3CiHZ>BiIGA<3NjNII>jRUDAA>1iPA>48iURAMU<44nTON>iY>4VhHA>jITU<4GiEKUTAARU>BjRUTU>2iG<31iIRAGANA HOKA>2GC3iON=A4FjON>2kRU<1iP>3TjA<2IiUARADDO<1RjIITO>jRAN>1iZ>2IhчOF<3CXp ʵƫTO>1tʇƫTO>2AiN>3C7jINGU<5KjTI>iU>38hK OHM>1XiA<1OjIRI<3DjRATTO>kORII>iB>3BiCAL>3iEESU<31iG>36iHZ>1iIRO<3HlGURAMU>lMEETORU>lWATTO>iK>51iL<1HiM>5j CAPITAL>1BlUBED<14kɢ<4iOOPO<3OjRUNA<1iPA>3WiT>10iUROONE<50kUZEIRO<1iV>4DiW>5iYURII<4ShƜȠBOX Ǆ<1MTiM>1S2iN>iOG>jZENGE<3B5iX>3B5hM ց<1AjOHM>RkVER S<Qp ɢ>jɢ<7iA<UjHHA<1QjIKURO<2kRU>jNSYON>2jRUKU<1iB>1Rj ȃ>25iEETORU<3RjGA<2lTON>iG>1TiHZ>3iIKURON<22jL>3WjRI<3WlBAARU>iL>23iM>5j ց>6kɢ<4iOL>1IiPA<17iS>7iU A<1DkF>9kG>kL>7kM>5kS>MkV>3kW>5iV<5j ̺>1iW>3j ̺>1hNA<1QjNO<2HiF>2QiM>EiOTTO<35iS>3RiV>3iW>5hONSU<4YiOMU>iRIGINAL OF<396s ʵƫTO>1wʇƫTO>2AiV>39RhPA>1Fj AMPS<15jASENTO<2DkTU>iC>21iEEZI<1NjNIH",
  "I<3kSU>1jSO<3iF>2AiH>24iIASUTORU<4PjKO>1kURU<1iM>4OiOINTO<4BjNDO>2jSITION ˕<1GWiPM>1L4iR>iS<16iV>3iW>5hRAD<Dk ƣS>r ɢ>iEMU<2IjNTOGEN>iɶȠBOX Ǆ<1OOjRA>1OJjTTORU<1iOOT<3EFiUPII>3EGjUBURU>hSAIKURU<1HjNTIIMU>iENTI>1lO>iIRINGU<2iR>55iV>hؘ>2H89iHZ=A6SiON<31hUON<XhV ƣM>5ZhWATTO<3RiB>3PiITH ʜƻǹ<1QImCONTOURED OUTLINE<8Jmǌրκ<TZmƒκ<5mƜƻǹ>1UnϐƜǌƻǹ>10TsƐǌƻǹ<10RmORTHOGONAL րκ<1WmƐƻǹ>1Tm̾ƻǹ>10PmǐƜǌƻǹ<10PxɊƿƐκ<1UsƐǌƻǹ>12KyɊƿƜκ<12KmƊκ<3hYAADO>2P4kRU>iUAN>gD ǂ<1VUiCJK UNIFIED IDEOGRAPH-4E00>2I5Eġ9>Ġ2D>2Ġ8C<PĠA4>3Ğ518D>5ğ21D>1Ġ4D<4Ġ72>Sğ3CC<13ĠF3>Rğ408>5Ġ39<Fğ5B6>Kğ8F0<Mğ91A<FĠ29>1ğB57<6ğDE6>QğF8C<FĞ624B<DĠ53>WĠ95<Ağ307>7Ġ55<7ğ599<DĠB0>3ğ620<6ğ708>Tġ9<1ğE80<1ğF14<FĞ7121<Cğ51F>7Ġ33>Lğ981<6ğA7A>ğD42<IĞ89E3<BğCA9>CğD70>CĞ904A<5ğ14D>FjL<4QjOOL>iƽǄ=6U9iʯK>2JGDiЌǌ̭=891j׬ϮǛ>2I1Mj͎ƽǜ=94CnK>2H69jӵ<BiHC>IjDR>jI-RES>jV<2MiID>21iғDE>3IrKOKO<IrSA>jEY=7NJiʆƢƃA>2IK0ĝB>ĝC>ĝD>ĝE>ĝF>ĝG>ĝH>ĝI>ĝJ>ĝK>ĝL>ĝM>ĝN>ĝO>ĝP>ĝQ>ĝR>ĝS>ĝT>ĝU>ĝV>ĝW>ĝX>ĝY>ĝZ>oƖƃD>2JjOGICAL ָ=7V2qOR>kSSLESS>2IFTiК=6U7jV>2JE3iNEW>21jG>iOK>j׹ǕTWENTY P>CiФ=6U6jPV>2JE7iˮǌ̭=890i˯<KNjD>2IJYjECOND SCREEN>27kVEN ϮǛ>4jHV>8jIXTY P<7jȸƵ=893jOS>2I1Cjϓ=894jS>2HZ8iƶD>25jIMES=6U8jWENTY-TWO ϮΈ>2JGHkO K<5iUHD>DjP ƀǬƕ<IiVOD>IjS<IiWC<23eT ƯƔƆ=7TZdID>2K15bS2=3Yc3>cA<9bT>LcADIUM>2QMAdFF ȕAESCULAPIUS=7MDjHERMES>4dMPED ́>2JFSdNDING ͣ>UHdR ƍCRESCENT=7JEfӂ<R3fȕDAVID>XXgPERATOR<UZfƀƜƻǹ>1SZkƐƻǹ>eT ȕGUARDED Ԥ=46jHEADING=1jPROTECTED Ԥ>44jSELECTED Ԥ<GkTRING>HjӼ=2dTION>2R9IeUE ȕLIBERTY<3WcEAM ײ>3OfɜBOWL<MEdNOGRAPHIC ǻǽ=94SdTHOSCOPE>2IWTcICK FIGURE>96m LEANING Ƿ>1vƩ>nƀARMS RAISED",
  "<2sDRESS>2cOCK CHART<161dPWATCH=73LcRAIGHT RULER>2JTPiNESS=738eWBERRY>2JJIdESS Ҝƨȩ=7QHdICTLY ЋTO<XYeNG ؚ=4CcS<9cUDIO MICROPHONE>2QKLdFFED FLATBREAD>14VdPA<HYcX=2bUB>Nd˰Ƭ>6ELlєƏ>3kǉ<7lȐ<1kƜƲ>8kК<2kǊ<2kǛ<8kƟƏ>8kƐƲ>3kƪ<7lIX<1kƤ<3lWO<1kǚ<2eևǈƔƆ>1RSnͧ>9Npђ<2hOF<1N5j ǈʿƫTO>1MUqɡƏ<4qʇƫTO>5qʺǄ<4kʵƫTO<1MPv ƀƽƅ>1MKkƀʇƫTO<1MHhƀɑ>1MAmҫƙƇ>3mƟƙƇ<2eTITUTE=QcCCEEDS>6SGi ǈʿƫTO>1MKpɡƏ<4pʇʿƫTO>5tƫTO<4p͓ɡƏ<6ěʇƫTO>1jԫʇЋTO<1JDjʵƫTO<30pʐTO>1jԅЦ>1DcMMATION ׀>75kTOP<1kƀɝ>194cN<SId BEHIND CLOUD>57eƀǑ>2IXKdDANESE ҷ=5H6kȏƙPAMINGKAL<PěNYAKRA>ĝIKU>ěSANGAN MA>8ĢWA>kƥƬ>Aqǉ<3rȐ<1qǊ>4qǛ<8qƪ>5rIX<1qƤ<3rWO<1qǚ<2kƃA<19sE>2rBA>HsHA>10rCA<1BrDA>4rE<BsU>rFA>CsΝK>13xM>rGA<1FrHA>JrI<SrJA>ArKA<5sHA>ZrLA<IsEU>VrMA<ZrNA<5sGA<7sYA>3rO<ArPA>DrQA<ArRA>FsEU>VrSA<TsYA>GrTA<TrU<DrVA>HrWA>5rXA>1rYA<5rZA<AkǯֽBA Ѿ>8MĜCAKRA<4ĜDA Ѿ>2ĜKA Ѿ<1ĜLEU Ѿ<1ĜPANGLONG<3ĝURNAMA>ĜSURYA<2kƙPAMAAEH<7QrNGLAYAR<15tWISAD>sYECEK<2pǤ>16kƷƙPAMEPET<3xNAELAENG<2yEULEUNG>2yGHULU<5yOLONG>2yYUKU<2dFLOWER>2L5HdRISE<1Ih ƣMOUNTAINS<1dSET ƣBUILDINGS>2cPERHERO>1BKf˰Ƭ=6EWnєƏ>3mǉ<7nȐ<1mʆƖƃI<3ğN>DnҎƲ<2mК<2mǊ<2mǛ=55mƟƏ>69SmƐƲ>3mƪ<7nIX<1mƤ=4ZnWO<1mǚ>69PgևǈƾƆ>1SApͧ>9Krђ>1j̞ƍѰBY ˏƀͧ>1qͧ<1jOF<1N8l ǈʿƫTO>1MUsɡƏ<4sʇƫTO>5sʺǄ<4mʵƫTO<1MPx ƀƽƅ>1MKmƀʇƫTO<1MHj؄ˆ>119jƀɑ>L0oҫƙƇ>3oƟƙƇ<2fVILLAIN>2JG8cRFACE ɝ=6R3eER>2JYScSHI<2PdPENSION RAILWAY>MZbWAN>LEdSH ַƭ<MLcIMMER<IZcUNG ̊=6DVbYLOTI NAGRI ƃA>QSSuBHO>RvO<1uCHO<EvO<1uDDHO>6wO<1vHO>4vO<1uE<IuGHO>5vO<1uHO>OuI<XuJHO>DvO<1uKHO<6vO<1uLO>NuMO<2uNO<5uO<JuPHO>KvO<1uRO>4vRO>1uSO>uTHO<CvO<1vTHO<3wO<1uU<DnPOETRY ю>10z2>z3>z4>nƙȎHASANTA>tNUS",
  "VARA<XsDVISVARA<9sHASANTA>3nƷƙA>SyE>2yI<2yOO>2yU<2c֚ʼϾ<Q3JlBACKSPACE>1mELL<1lCANCEL>GnRRIAGE RETURN<BlDATA LINK ESCAPE>2mELETE>Gr ʰΈ>3nVICE CONTROL ̂<HĚǛ<3ĚƤ>1ěWO<1lͷȕȋ>6sӼ<Mt֦>Ğ ǥ>InQUIRY<ImSCAPE>LlFILE ǰ>mORM י<GlGROUP ǰ>Glƒβ<Klȟי>lMARKS CHAPTER>2JWAlҙϾ=74LnWLINE>EmULL<10lRECORD ǰ>TlSAMARITAN ӹ<JZmHIFT IN>JJrԙ<1mPACE>HmTART ȕHEADING<VuӼ>mUBSTITUTE>Nv ʰΈ>BmYNCHRONOUS IDLE<GlTYPE A ELECTRONICS>1HClUNIT ǰ<1H4lƊβ<KdMETRY<64cN=MdAGOGUE>2R06dCHRONOUS IDLE=McRIAC Ǎƕ>1DKhBARREKH>1MhCOLON իǷ<1WuƩ>jNTRACTION>2hȿZLAMA ANGULAR>1Auǣ<1hͷȕPARAGRAPH<1KiSASA ƅ>1OnƇ>hFEMININE ɑ>1hHARKLEAN ASTERISCUS<1FqMETOBELUS<1qOBELUS<1iBASA ƅ>1AnƇ>m-ESASA ב>iˬʍ<1JhƃALAPH>Ao̱>1oDALATH>2p̤DALATH RISH>oE>EoƄSEMKATH<1oGAMAL<Ht GARSHUNI>oHE>2qTH>2o͇>4oLAMADH>oMALAYALAM BHA>91yJA<5yLLA>6ĚLA>yNGA<9zNA>3ĚNA>zYA<3yRA>4ySSA>2yTTA<7pIM<8Yo̢>oPE>3qRSIAN BHETH>6wDHALATH>1wGHAMAL<1oQAPH<5oȀPE<2pISH>2o˛<2pEMKATH<5pζ>7pOGDIAN FE>ZwKHAPH<1wZHAIN<1pгALAPH<1Oo҅>QpԽ<Hs GARSHUNI>oͪ<4oYUDH>4s HE>oZAIN<5hMUSIC>1BhɎȟƅ<2uƇ>hPTHAHA ƅ<OoƇ>oב>hQUSHSHAYA>EhRBASA ƅ<BnƇ>iUKKAKHA>AiWAHA<3hSUBLINEAR ʍ<1Nw իǷ>4ĞƩ<rǻǽ<7jPRALINEAR ʍ>y իǷ>4tǻǽ<7hƶǇƅ>1VsƇ>iˢƊǇƅ<3zƇ>hZQAPHA ƅ<HoƇ>oב>eNGE>2PG3aT-REX>ZWcSHIRT<11DbAB=9dLE TENNIS PADDLE ƍη>2QQ1cCO<4LcG υ>GXDJfϒ>f҃>2eɪǵ>1Ff׿<10gMMA<EiѨAT>JeƥƬ<8kǉ<3lȐ<1kǊ>4kǛ<8kƪ>5lIX<1kƤ<3lWO<1kǚ<2fӨƏ<CeɡƏ>Ofˉƕ<Seǻǽ>Ce̵ǵ>1DgЉƏ<Yeϥ<HeʆƢƃA>JzB>zC>zD>zE>zF>zG>zH>zI>zJ>zK>zL>zM>zN>zO>zP>zQ>zR>zS>zT>zU>zV>zW>zX>zY>zZ>kƖƃA>6xB>xC>xD>xE>xF>xG>xH>xI>xJ>xK>xL>xM>xN>xO>xP>xQ>xR>xS>xT>xU>xV>xW>xX>xY>xZ>fҎʭƓ>jƲ<2BjɁƓ>1EgЬƏ<Vf",
  "ҭɮ>YeƹƏ<1OeУƏ>1fӜƏ>5eǗƕ>Jgөƕ<Teʷˆ>1LfɶʭƓ>WkƲ<2CkɁƓ>1Fe˜<Yf׾<CfPACE<FeǏ>2LeƊɮ<2dALOG ƃA=4JKq˅RA>UpBA<LpDA<3pGA<3pHA>CpI<GpKA>1pLA>ApMA<3pNA<3qGA<3pPA>3pRA>3pSA>2pTA<ApU<4pWA>CpYA<3iƙPAMUDPOD>8nǤ<1iƷƙI<2tU>dBANWA ƃA>24qBA>9qDA<3qGA<3qI<3qKA>1qLA>AqMA<3qNA<3rGA<3qPA>3qSA>6qTA<AqU<4qWA>CqYA<3jƷƙI>5uU>cI LE ƃA>DRpI>9pUE<1oE<1pE<6pH>oFA<AoHA>1oI>5oKA<KpHA>FoLA<8oMA>2oNA>6pGA<GoO>MpO<1oPA<FpHA>oQA>4oSA<BoTA>1pHA>pONE-2>Ot3>t4>t5>t6>pSA<XqHA>DoU>5pE>2oVA<DoXA<CoYA>3eTHAM ɥCRYPTOGRAMMIC ɑ>89lNSONANT ƙBA<YyƄNGA<4yʎRATHA ʵ˗PA>1yLA TANG LAI<4zҭPA>2yMA>1zEDIAL LA<6ğRA<1ySA>8jHORA ƥƬ>15uǉ<3vȐ<1uǊ>4uǛ<8uƪ>5vIX<1uƤ<3vWO<1uǚ<2jƃA<1HqBA<KqDA<8qEE>XqGREAT SA>2qʎCA<19wHA>vFA>HvHA>EvKA<15wHA>wXA>vPA>LwHA>vRATHA<BvSA>PwHA<2wSA>vTA<LwHA>vYA>CqI>CrI>qLA<BsE>FrLA<9rҭCA<XvHA>1uFA>GuHA>FuKA<15vHA>1vXA<1uPA>MvHA>1uRATHA<DuSA<6uTA>9vHA>uYA>9rUE>4qMA<6qNA<8rGA<GrYA>5qOO>11qRA<HsNA<GsTA<4rUE>KqU>CrU>qWA<BjƙCAANG>2VoDOKMAI<8oHANG>6pOY<8oKAAN>3sKUU>pEOW<6pHUEN TONE-3<18z4>z5>t-LUE KARAN>2oӝKANG<8w LAI<SsSAM>YsYAMOK>17oRA HAAM<19p̋ǨRANA>17oSAKOT<1YqTKAAN>21vKUU>qWAN<9oџ<19t2>oWIANG>15tWAAK>jTHAM ƥƬ<9uǉ<3vȐ<1uǊ>4uǛ<8uƪ>5vIX<1uƤ<3vWO<1uǚ<2jƷƙA<1BvA>1vE>BvI>1uE<3uI<9vI>uӝSAT<4uO>8vA ƅ>7xƇ<7vO>3vY<3uTALL AA<9vHAM AI>DuU<9vE<2vU>2wE<2eVIET ƃʎBO>SHEvCHO<EwO<2vDO>7vFO>DvGO<QvHO>11vKHHO<14xO<2wO<2vLO>13vMO<6vNGO<QwO>FwYO<8vO>TvPHO<GwO<2vRO>9vSO<OvTHO>7wO<2vVO>LvYO<6q˗BO<BuCHO<EvO<2uDO>7uFO>DuGO<QuHO>11uKHHO<14wO<2vO<2uLO>13uMO<6uNGO<QvO>FvYO<8uO>TuPHO<GvO<2uRO>9uSO<OuTHO>7vO<2uVO>LuYO<6jӝKANG>BoHIT>6jȗHO HOI>12qKOI K",
  "OI>sN<4qNUENG>qSAM>jȄӝEK<UsNUENG>sSONG>1sTHO<1jƷAA<GqM>CqN<1qUE<2qY>pE<7pI<3qA>5pO<2pU<2qA>5qE<7rA>5cKEOUT Ԫ>1U3RdRI ǍƏ<18RSgƥƬ>Emǉ<3nȐ<1mǊ>4mǛ<8mƪ>5nIX<1mƤ<3nWO<1mǚ<2gƃA<1SoA>oI>5o˅KHA>1CoU<1BnBA>MoHA>nCA<IoHA>nDA>AoDA<5pHA>oHA>4nE<MnGA>5oHA>nHA>RnI<13oI>nJA>DoHA>nKA<8oHA>nLA>PnMA<3nNA<5oGA<FoNA>9oYA<5nO<BnPA>LoHA>nRA>4oRA>5nSA<2oHA<1nTA<EoHA>oTA<6pHA>nU<HoU>nVA>WnYA<3gƙƸ>7lɹ>BlǤ<1nɟ<AgƷƙAA>sI>5sU>1rE<3rI<4sI>rO>4rU<4sU>cLLY Ǵǉ>11AElǛ<1cMALE>7RWdIL ƍ׽Ə<178PhS ǈƏ=2D4hU ɔƕ<XgCREDIT Ə>VhURRENT Ə>1IIAgDAY Ə=2CZhEBIT Ə>2h˿Ƭ<8mǉ<3nȐ<1mǊ>4mǛ<8mƪ>5nIX<1mƤ<3nWO<1mǚ<2hRY ԶƏ>1IIMgȶDOWNSCALING ԾKIIZH<HpǮс<8yIETH<AtFIFTH>CuORTIETH<BtHALF-1>Cy2>tο<Ht˭>EtSIXTEENTH-1<7ĝ2>xY-FOURTH<7tTENTH>7uHIRTY-SECOND<6vREE-HUNDRED-AND-TWENTIETH<5uWENTIETH>7pƶד<2v͐>Cvα<5zY-FOURTHS<7v؟>5g̎POSSESSION Ə>WgLAND Ə<8hETTER A=29XoA>oI>9oU>3nCA>5nE<CoE>nHA>15nI<1EoI>nJA>JnKA<7nLA>SoLA>pLA>nMA<6nNA<6oGA<FoNA>9pNA>5oYA<BnO<CoO>nPA>MnRA>5oRA>nSA>6oHA<2oSA>nTA<JoTA<5nU<MoU>nVA>16nYA<6gMONTH Ə>1WgƹǮƚ<3rƎ>nƏ>7nʚ<AgOM<WgǯͷȕӼ>1IJYgϲƏ=2D5gSALT PAN Ə>1II5hλAAZHAAKKU<GmNUSVARA=29UlCEVITU>1IKZlKAACU>6mURUNI<3nZHI>7lMUKKURUNI<6nTHALIYA>JnUVUZHAKKU<NlNEL<4lPAARAM>BnNAM<3nTHAKKU<3mON>3lUZHAKKU<7lVAKAIYARAA>OnRAAKAN<HmELI>2mIRAMA=2BXnɟ<22hPENT Ə>1ILKhTARTING ȻƏ>2gTOTAL Ə<2hRADITIONAL CREDIT Ə<5sƹƏ>gƷƙAA=2BIsI>9sU>3rE<6sE>rI<8sI>rO>9sO>rU<AsU>gWET ԶƏ>1IJLgYEAR Ə=2D1cNABATA ԁ>2OB9dGERINE<1TeSA ƥƬ<QYQnǉ<3oȐ<1nǊ>4nǛ<8nƪ>5oIX<1nƤ<3oWO<1nǚ<2hƃAC<23pQ>pWC>IqQ>qX>qZ<3pX<HpZ<3oBA>1HoCA>ApHA>7oDA<CpHA>AoEC<1RpQ>pX>pZ<3oFA>1QpΝNG<17oGA>HpH",
  "A>KoHA<ApTA>1qTA>8oIC<1JpQ>pX>pZ<3oKA>VpHA>oLA>CpͼUEX<ToMA>PpC<EpQ>pX>pZ<3oNA>FpGA<9pHA>FpYA<BoOC<1JpQ>pX>pZ<3oPA>1IpHA>1oRA>8oSA<EpHA>Fq՛AWX<XuUEZ<1oTA>TpHA>8pSA<3oUC<1DpEC>EqQ>1qX>qZ<2pIC<8qQ>qUC>ArQ>rX>rZ<3qX<9qZ<3pQ<6pX>pZ<3oVC<BpQ>pX>pZ<3oWA>19oXA>JoYA<LoZA>OeUT COMPONENT-001>5S1t2>t3>t4>t5>t6>t7>t8>t9>s10>t1>t2>t3>t4>t5>t6>t7>t8>t9>s20>t1>t2>t3>t4>t5>t6>t7>t8>t9>s30>t1>t2>t3>t4>t5>t6>t7>t8>t9>s40>t1>t2>t3>t4>t5>t6>t7>t8>t9>s50>t1>t2>t3>t4>t5>t6>t7>t8>t9>s60>t1>t2>t3>t4>t5>t6>t7>t8>t9>s70>t1>t2>t3>t4>t5>t6>t7>t8>t9>s80>t1>t2>t3>t4>t5>t6>t7>t8>t9>s90>t1>t2>t3>t4>t5>t6>t7>t8>t9>r100>t1>t2>t3>t4>t5>t6>t7>t8>t9>s10>t1>t2>t3>t4>t5>t6>t7>t8>t9>s20>t1>t2>t3>t4>t5>t6>t7>t8>t9>s30>t1>t2>t3>t4>t5>t6>t7>t8>t9>s40>t1>t2>t3>t4>t5>t6>t7>t8>t9>s50>t1>t2>t3>t4>t5>t6>t7>t8>t9>s60>t1>t2>t3>t4>t5>t6>t7>t8>t9>s70>t1>t2>t3>t4>t5>t6>t7>t8>t9>s80>t1>t2>t3>t4>t5>t6>t7>t8>t9>s90>t1>t2>t3>t4>t5>t6>t7>t8>t9>r200>t1>t2>t3>t4>t5>t6>t7>t8>t9>s10>t1>t2>t3>t4>t5>t6>t7>t8>t9>s20>t1>t2>t3>t4>t5>t6>t7>t8>t9>s30>t1>t2>t3>t4>t5>t6>t7>t8>t9>s40>t1>t2>t3>t4>t5>t6>t7>t8>t9>s50>t1>t2>t3>t4>t5>t6>t7>t8>t9>s60>t1>t2>t3>t4>t5>t6>t7>t8>t9>s70>t1>t2>t3>t4>t5>t6>t7>t8>t9>s80>t1>t2>t3>t4>t5>t6>t7>t8>t9>s90>t1>t2>t3>t4>t5>t6>t7>t8>t9>r300>t1>t2>t3>t4>t5>t6>t7>t8>t9>s10>t1>t2>t3>t4>t5>t6>t7>t8>t9>s20>t1>t2>t3>t4>t5>t6>t7>t8>t9>s30>t1>t2>t3>t4>t5>t6>t7>t8>t9>s40>t1>t2>t3>t4>t5>t6>t7>t8>t9>s50>t1>t2>t3>t4>t5>t6>t7>t8>t9>s60>t1>t2>t3>t4>t5>t6>t7>t8>t9>s70>t1>t2>t3>t4>t5>t6>t7>t8>t9>s80>t1>t2>t3>t4>t5>t6>t7>t8>t9>s90>t1>t2>",
  "t3>t4>t5>t6>t7>t8>t9>r400>t1>t2>t3>t4>t5>t6>t7>t8>t9>s10>t1>t2>t3>t4>t5>t6>t7>t8>t9>s20>t1>t2>t3>t4>t5>t6>t7>t8>t9>s30>t1>t2>t3>t4>t5>t6>t7>t8>t9>s40>t1>t2>t3>t4>t5>t6>t7>t8>t9>s50>t1>t2>t3>t4>t5>t6>t7>t8>t9>s60>t1>t2>t3>t4>t5>t6>t7>t8>t9>s70>t1>t2>t3>t4>t5>t6>t7>t8>t9>s80>t1>t2>t3>t4>t5>t6>t7>t8>t9>s90>t1>t2>t3>t4>t5>t6>t7>t8>t9>r500>t1>t2>t3>t4>t5>t6>t7>t8>t9>s10>t1>t2>t3>t4>t5>t6>t7>t8>t9>s20>t1>t2>t3>t4>t5>t6>t7>t8>t9>s30>t1>t2>t3>t4>t5>t6>t7>t8>t9>s40>t1>t2>t3>t4>t5>t6>t7>t8>t9>s50>t1>t2>t3>t4>t5>t6>t7>t8>t9>s60>t1>t2>t3>t4>t5>t6>t7>t8>t9>s70>t1>t2>t3>t4>t5>t6>t7>t8>t9>s80>t1>t2>t3>t4>t5>t6>t7>t8>t9>s90>t1>t2>t3>t4>t5>t6>t7>t8>t9>r600>t1>t2>t3>t4>t5>t6>t7>t8>t9>s10>t1>t2>t3>t4>t5>t6>t7>t8>t9>s20>t1>t2>t3>t4>t5>t6>t7>t8>t9>s30>t1>t2>t3>t4>t5>t6>t7>t8>t9>s40>t1>t2>t3>t4>t5>t6>t7>t8>t9>s50>t1>t2>t3>t4>t5>t6>t7>t8>t9>s60>t1>t2>t3>t4>t5>t6>t7>t8>t9>s70>t1>t2>t3>t4>t5>t6>t7>t8>t9>s80>t1>t2>t3>t4>t5>t6>t7>t8>t9>s90>t1>t2>t3>t4>t5>t6>t7>t8>t9>r700>t1>t2>t3>t4>t5>t6>t7>t8>t9>s10>t1>t2>t3>t4>t5>t6>t7>t8>t9>s20>t1>t2>t3>t4>t5>t6>t7>t8>t9>s30>t1>t2>t3>t4>t5>t6>t7>t8>t9>s40>t1>t2>t3>t4>t5>t6>t7>t8>t9>s50>t1>t2>t3>t4>t5>t6>t7>t8>t9>s60>t1>t2>t3>t4>t5>t6>t7>t8>hɧƕ<5CVcPE CARTRIDGE>QFGfDRIVE=7PJcURUS<5AcXI>2JPNbEACUP WITHOUT HANDLE<M8dPOT>1GGdR-OFF CALENDAR<174eDROP-BARBED ƔƆ=7UIjȨǂ<3JcDDY BEAR>2K70cLEPHONE LOCATION Ə=7PIkʾ̾ȕMODEM>2JCPkӴ<4Is ƀPAGE>4DnORDER=6XHkƏ<DWeSCOPE>2KGBeVISION<1FdUGU AI ɔƕ=2FQhƥƬ>Nnǉ<3oȐ<1nǊ>4nǛ<8nƪ>5oIX<1nƤ<3oWO<1nǚ<2hȶƥǮʼEVEN ͏ȕ̂>LĞ׽͏ȕ̂<3wƶʼEVEN ͏ȕ̂>4Ġ׽͏ȕ̂<3xˢʼE",
  "VEN ͏ȕ̂>1Ğ׽͏ȕ̂<3wֳʼ׽͏ȕ̂<2hɔƕ<ZjԂA<28pA>pI>9pU>3oBA>NpHA>oCA<JpHA>oDA>ApDA<5qHA>pHA>4pZA>1DoE<23pE>oGA>7pHA>oHA>WoI<1EpI>oJA>JpHA>oKA<8pHA>oLA>RpLA>qLA>oMA<6oNA<6qKAARA POLLU>1GpGA<1WpNA>9pYA<5oO<CpO>oPA>MpHA>oRA>4pRA>qRA>14oSA<YpHA<2pSA>oTA<JpHA>pSA>1EpTA<1LqHA>oU<NpU>oVA>16pȳL<15xL>2CwR<2ExR>2CoYA<1DhƙƸ<19nɾ>1Mmǃ<1OnϏ͚ƅ>2wԭƅ<4mɹ>1Nm·>1MmTUUMU>7mǤ<1Eoɟ<22hƷƙAA>1MtI>9tU>3sE<6tE>sI<8tI>sO>9tO>sU<AtU>sǪL>VěL>ĚR<WěR>cNGE Ə>41FdNIS RACQUET ƍη>2K91dT=7P6cST TUBE>2K8FcTRAGRAM ʼACCUMULATION<7MXpDVANCE<14pGGRAVATION>1JpSCENT<1XoBARRIER<3pӧRESOLUTION>PpRANCHING ԙ<Loț<8pHANGE>Qp΢̒>RtNESS<NsURE>14pOMPLETION<1tIANCE>3qNSTANCY<QrTACT<ZsENTION>8sRARIETY<JoDARKENING>1OpECISIVENESS<12qFECTIVENESS ʵDISTORTION<JqPARTURE>1JpIFFICULTIES>CqMINISHMENT<OrMING>CqVERGENCE<1LpOUBT>1EpUTIES<ZoEASE<4pMBELLISHMENT>11pNCOUNTERS<IqDEAVOUR<HqLARGEMENT>JpTERNITY>6pXHAUSTION>FoFAILURE>5pȱ<QpOLLOWING<UqSTERING>1PpԃƵ<27sNESS>ZoGATHERING<3x IN>MpOING ɊMEET<GpREATNESS>2pUARDEDNESS>BoHARDNESS>EpOLDING Ԧ<1JoINCREASE<4qNER>1FoJOY<15oKEEPING ȃ<JpINSHIP>SoLABOURING>19qW ʵMODEL<14pEGION<8oMASSING>QpEASURE<7pIRED<1Doʾ̽VERGE>22pPPOSITION<1YoPACKING>MqTTERN>FpENETRATION<XpURITY>MoREACH<MqLEASE>5qSIDENCE>HsSTANCE<HrPONSE>IpITUAL>6oSEVERANCE>LpINKING<6pTOPPAGE>6rVE<RqRENGTH<8oUNITY>HoVASTNESS ʵWASTING<4oմ<WqTCH>18oYOUTHFULNESS<1FbHAANA AABAAFILI=1IFiBAFILI<1hEBEFILI>5iEBEEFILI<3iYBEYFILI>3hIBIFILI<5hƃAINU<6pLIFU<RoBAA<3oCHAVIYANI>IoDAADHU>7qVIYANI<EpHAALU<6oFAAFU<1oGAAFU>3pHAINU>KpNAVIYANI<KoБ<FpБ>OoJAVIYANI<3oKAAFU<GpБ>JoLA",
  "AMU<DpHAVIYANI<8oMEEMU>3oNAA>13pOONU<1BoPAVIYANI>IoQAAFU>EoRAA<XoSAADHU>QpEENU<EpHAVIYANI<FqEENU>RoTAVIYANI<ApБ<7sLU>EpO>4pTAA<8oVAAVU<GoWAAVU>SoYAA<HoZAA>7qVIYANI<ApO>EhOABOAFILI>DiBOFILI<1iOBOOFILI<3hSUKUN>4hUBUFILI<6dI ˦ANGKHANKHU>1BJpBO BAIMAI<1SpCHO CHAN<IxG>1v֓<1vOE>2pDO CHADA>1sDEK>5pFO FA>8uN>1rNGMAN>1BpHO HIP<10sNOKHUK>2pKHO KHAI<18vON>2vUAT<2vWAI>tRAKHANG>1sMUT>2CqO KAI<2IpLAKKHANGYAO>1VqO CHULA<PsLING<7qU>pӝCHATTAWA>10tEK<3tHAN-AKAT<NtTHO>NuRI>sTAIKHU<3sYAMOK<1qO MA<11pNGO NGU<QqIKHAHIT>1XqO NEN<1MtU>5pO ANG>JpPAIYANNOI>1qHINTHU>ArO PHAN<Svأ<2tSAMPHAO>3qO PLA<5pRO RUA>7qU>pSARA A>BvA>1vE>EvI MAIMALAI>2ěUAN<1vM<GuE>CuI<CvI>uO>CuU<AvE<2wE>vU>1qO RUSI<GsSALA<1tO<TtUA>UpTHANTHAKHAT>XrO NANGMONTHO<1NtPHUTHAO>tTHAHAN>4wN<7vONG>7vأ<2qO PATAK<7sTAO>5pˢWAEN>HpYAMAKKAN>12qO YAK<18t֓<LgURRENCY ȗBAHT>1DfƥƬ>Olǉ<3mȐ<1lǊ>4lǛ<8lƪ>5mIX<1lƤ<3mWO<1lǚ<2cERE DOES ʇEXIST>3W3gEXISTS<1fFORE>1CeMODYNAMIC>1IQgMETER>2IBDc̎˩Ⱥ>VZf˯>6gPACE=6BTe֖Ǒ>2LFUdRD ӯӞ>1GcͼSANDAL>8AdUGHT BALLOON<153cѕԬ֛>77gԳɡSIGNS=8DYgDIMENSIONAL Ё<JAḥǜ<1GQgƾʂ>256hINES CONVERGING Ƿ<WIxƩ<1gNETWORKED COMPUTERS>2JGOgǲƯȩ>EYgRAYS ƅ<DAlƇ>lǷ>lƩ>hרʂ=6PIgSPEECH BUBBLES>2KFOf-D BOTTOM-LIGHTED Ɣƞ=7TViLEFT-LIGHTED ǔǁƞ>S7iRIGHT-LIGHTED ȅǁƞ<2iTOP-LIGHTED ƾǁƞ<1uƔƞ<S6ğǁƞ>S7gEM ̊>IOgPER-EM ʸ<2T3cUMBS ǱƏ>2KI1hʨƏ<1dNDER CLOUD ƍբ=7NShSTORM<5CbIBETAN Ԏƙ-KHYUD PA<4J4ĚSDONG TSHUGS>ěGRA GCAN -CHAR έ<2iCANTILLATION ƙCANG TE-U>4QĚǝBEAT<2ĚȡBEAT>ĚSBUB -CHAL>1iƥƬ<4Boǉ<3pȐ<1oƻƬ>Ctǉ<3uȐ<1tǊ>4tǛ<8tƪ>5uIX<1tƤ<3uWO<1tǚ>7oǊ<AoǛ<8oƪ>5pIX<1oƤ<3pWO<1oǚ<2iKU R",
  "U KHA>4Dr BZHI MIG ҹ>iƃ-A<2NpA>7pBA<IqHA>pCA<IqHA>pDA>AqDA<5rHA>qHA>4qZA>8rHA>p֌RA>DpGA<14qHA>pHA>ZpJA<WpKA<7qHA>qKA>15qSSA<2pLA<6pMA<BpNA<5qGA<FqNA>9qYA<5pPA>AqHA>pRA>CqRA>9pSA<6qHA<2qSA>pTA<MqHA>qSA>8rHA>qTA<GrHA>pWA>HpYA>3pZA<2qHA<1jOGOTYPE ƙCHAD έ<21wLHAG έ>iǴANG KHANG GYAS>12zON<1nBKA- SHOG GI ЙRGYAN>43xеMGO<5IoSDUS έ>15pKA- SHOG GI ЙRGYAN>4BqUR еMGO<5Jn׃-DZUD RTAGS BZHI MIG ҹ>18ğME Ȃҹ<ZtеЙPHUR SHAD MA<DoHE MGO>1DoLOSING BRDA RNYING еЙSGAB MA>4BvеЙSGAB MA<5RnDELIMITER ؞BSTAR>6nGTER ҈>7sеЙ-UM GTER ؞MA<HĞRNAM BCAD MA<1ĚTRUNCATED A<1oUG RTAGS GYAS>1LzON<1nՅ>21nƂBRDA RNYING еЙMDUN MA>26vеЙMDUN MA<5RpTERSYLLABIC ҈>6nLEADING MCHAN έ>5PnMNYAM еGI ЙRGYAN<8nNGAS BZUNG NYI ZLA<4CySGOR έ>1oYIS ΰ<15s҈>5Fx ΰ<5EnPALUTA>38nRGYA GRAM ΰ<37o̎CHEN SPUNGS ΰ<1nSBRUL ΰ<9oHAD>4nTRAILING MCHAN έ>5OoSA -PHRU<4HpHEG ΰ<16nеЙ؞SHAD MA<8iƙGRU CAN RGYINGS>3MrMED RGYINGS>nƱMCHU ҹ>nLCE TSA ҹ<4pI έ<2nMAR TSHES<1ZoCHU ҹ>21nNYI ZLA NAA DA<7nRDEL DKAR GCIG<2WyNYIS>ySUM>xRDEL NAG>2sNAG GCIG<2xNYIS>xSUM>4WwRDEL DKAR<1oJES SU NGA RO<28oNAM BCAD>nSNA LDAN>3nYANG έ>3pR TSHES<21jͩƃ-A>35zA>7zBA<IĚHA>zCA<IĚHA>zDA>AĚDA<5ěHA>ĚHA>4ĚZA>8ěHA>z֌RA>FĤWA<2ĤYA>zGA<15ĚHA>zHA>ZzJA<WzKA<7ĚHA>ĚSSA>13zLA<6zMA<BzNA<5ĚGA<FĚNA>9ĚYA<5zPA>AĚHA>zRA>CzSA>3ĚHA<2ĚSA>zTA<MĚHA>ĚSA>8ěHA>ĚTA<GěHA>zWA>HzYA>3zZA<2ĚHA<1sƙƱMCHU ҹ<VxLCE TSA ҹ<2xMCHU ҹ>jԍOM<3Yk֚DRIL BU>5FpՙBU>4v BZHI ֵ>2wGSUM ֵ<1wNYIS ֵ<1pPADMA GDAN<4qHUR PA>1pRDO RJE<3w RGYA GRAM>1iƷƙAA<2EtE>8uE>tI<9uI>tO>8uO>tȀI>2ĝI>tU<DuU>tǪL>2ĜL>ěR<3ĜR>cCKET>2NN7cE ƣӒ=89PcFINAGH ȏΟ>PTjƃAHAGGAR",
  " YAZH<1GrYER YAGH>CqBERBER ACADEMY YAH<NġJ<CqTAWELLEMET YAZ>1ArUAREG YAGH<DĚN<7zH<EzK<4ĚH>7zNG>AzQ<9zZH>3qYA<SsA>JsB<JtH>sCH>17sD<13tD>1uH>tH<2sF>3sG<9tH>YuH<YsH>BtH>2sJ<DsK>6tH>7uH<6sL>DsM>sN>sP>2sQ<BsR>CtR>sS>3tH>1tS<1sT>1tH>tT>1sV>sW>sY>sZ>tH<PtZ>QrE>sY<17rI>DrO>TrU<Kj˘ƃLABIALIZATION ƕ>Rj˲ƕ>cGER>2HSKf Ǒ>15dHT TRIFOLIATE SNOWFLAKE=7R9cLDE=3If Ǆ>6NXo ǈƾƆ>1SCvƔƆ<D3pƀƽƅ>6Vuˮʃ>gƀƽƅ>QApƇ>lȑƅ<4cMER CLOCK<209eS ƀƜƻǹ>15TlƐƻǹ>cNY>14e ȉǇƣǮƽǜ>18HNcϯǑ>1AEOdHUTA ǍƏ<18ITjNJI<1YiƥƬ>2Foǉ<3pȐ<1oǊ>4oǛ<8oƪ>5pIX<1oƤ<3pWO<1oǚ<2iGVANG<BiƃA<1WqA>qI>9qU>1pBA>MqHA>pCA<IqHA>pDA>AqDA<5rHA>qHA>4pE<MpGA>5qHA>pHA>SpI<18qI>pJA>HqHA>pKA<8qHA>pLA>PpMA<3pNA<5qGA<FqNA>9qYA<5pO<BpPA>LqHA>pRA>4pSA>4qHA<2qSA>pTA<FqHA>qTA<6rHA>pU<LqU>pVA>10qȳL<YyL>xR<3yR>pYA>ViOM>UiƙƸ<7oɾ>3nǃ<5nɹ>3nǤ<1pɟ<1iƷƙAA<HuI>AuU>2tE<5tI<8uI>tO>9tȖE<2zO>2tU<AuU>tǪL>2ĜL>ěR<3ĜR>dONIAN ƙƢET=95EoET<2RSbOILET>2KXEcKYO TOWER<5DcMATO<JBcNGUE>73cOLBOX>14AdTH<1LfBRUSH>6LcP ҴʫƆ=856ě ƀФ>2iнǦƀК<1eʭƓ<126eƻƯƵ>1KBjɝ<1PMjƜƲ>27SjƐƲ>jɆƏ<XgT>2HKFeƜʔ=6XOkROP<DjƻƓ>26QeƲ<212eƐʔ<5BlROP<FkƻƓ>26SeɁƓ<227eȣɈƓ>17eƀȅǦƅ>2JWCcRTOISE ɈBRACKETED CJK UNIFIED IDEOGRAPH-4E09<KCı8C>į52DD>4İB89<4į6253>1İ557>2İ72C<8į70B9>3İ6D7>1zʆƢƃS<7WcTAL RUNOUT=6Y8dO ƃA>2GE4nE<2mBA<QnREATHY AE>QuE<5vO>1uI<7vU>1mѤ<AmDA<7mE>InO>1mGA<JmHA>8mI>2nU>1mJA<6mKA<9mLA>BmMA<AmNA>nGA>mO>HmPA<QmRA>EmSA<6mTA<7mU>ImWA<9mYA<1fƙˮʻ>IbRACKBALL>3R7eTOR>6HdDE ǴƏ=6JMdIN>2KPVdM>3e CAR>dNSPLUTO=8NRfVERSAL ɓ<70cѮƀƽƅ<7LoάϢ>2J23oSERIFS ҧ׀=899oǩ<2iʪƔƆ<FIgа̇<1H6lFLAG ʾPOST>2KXXlRULER<D5dʍ=6E5dDENT EMBLEM>2KLVdGRAM ʼΔ=7J",
  "RmFIRE<5mס<2mLAKE>mӡ>4mTHUNDER<3mԉ>1nIND<1dѓCOLON Ǆ>XThһ>NOhƒ̄ƀƗƊƋ<RNěɣƊƋ>hɝ<1MKhNESTED ǒ>1QIoǿ<1hФ<70iRIME<1XJh͕BINARY Ц>24MhǏ<1PShƊ̄BINARY Ц>1PKuҍ<ACuƐʧ<1CMuƀƒƋ>1MYcOLL>2JFAfEYBUS<N2dPHY<JSeICAL DRINK<25jFISH>4McUE=6UGe ȡόARTA>1TIdMPET>2I1MbUGRIK Ə=6GEcLIP>2K5KcMBLER Ӌ>16ZcRKEY>1ReISH LIRA Ə=6GQdNED υ>40iNGLE>1NAhƯӮ>F3nSHOGI ϑ<ZChƢF<13SiOMMA>2KFhһ>5i˿Ƥ<2I5oWO<1h˩ƖƃIOTA<2PhɩɱƦ̐>2KOCn̘Ʀ̐<2jT Ə=6XLhOK ̪Ə>2K51hǸƢG=6KHĚL>ĚY>1iEMICOLON>2K0iȸF<2JRiOUTH ɱƦ̐>2KNCn̘Ʀ̐<2hƨSHOGI ϑ=7NTdTLE>2J4ObѢǲƯȩ=7QXcISTED Ɣʂ>2J7QcO ASTERISKS ALIGNED VERTICALLY=6DTeԬ֛>2KPQeԳɡSIGNS=8DXeƽׯ<21Ciǜ>1GhS ƣǮƽǜ>2Q7eɦ>2HREeINTERSECTING ָ̑=8D1zOR>eѰҁ<3XȇƍǄ>1PmʵǄ>eMEN Ιѫ>2IJNeSPEECH BUBBLES>ALeWOMEN Ιѫ<ALd-EM ̊=94QaUGARITIC ƃѣ>1654rLPA<JqBETA>qփ>2rן>AqGAMLA<DrHAIN>MqHO<KsTA>2qI>IqҪ<GrHA<8q֘>9qи>q̢>1qPU>3qQOPA>1qRASHA>qSADE<2sMKA<3rζ<6rSU>GqTET<KrHANNA>ErO>1qU>1qWO<MqYOD>3qZETA<3rU>9jд΃>DbMBRELLA=7IAi ʾGROUND>6MjƀRAIN DROPS<65bNAMUSED Ǒ>2JNHcCERTAINTY Ə=8NLcDERTIE<2AAdO ƌ>NGcICORN Ǒ>2KTZdON=6QYf ǈ̄ǈɓ>1LPmɓ<2g̞ƍѰƀв>3gƀ̑OR<5lяƏ<4lɺ>dT ǰ=VeӀƌ>8NUdVERSAL ؊ƌ<13CcMARRIED PARTNERSHIP ƌ>1ObP ǦʒƵ>LPiҐ<1BUm ̆ȉƒBARS>Wn̎A ؉Ԫ>1P0dǎƜǱǎƜˀ<H4xƐˀ<4iƐǱǎƜˀ<1yƐˀ>2dǱƆ<1IYn ƀBASE>IiƯƆ>1USiƗƆ<1TKiǸƆ>2KXViǡƆ=8KLiƨƆ<1V6d֋ȓ>1HMdƐǌ˒<1AMd̃<23h ƀǟƅ>115cȬ΋>2JGNmMILITARY ΋<1mϯƧ<BWmƖ΋>BXsϯƧ<BWmǠƀƜƻǹ=7HPĚƐƻǹ>cPER ƍƜƍƿȼƶʈǥ>2KQJlϐǮȥǥ>Lqȼƻǥ>PkƐƍƿȼƶʈǥ<1EgBLADE ή=7PDgɖɛǥ>2KJMgƻǥ=7EOq ƍƿƻДǙ͒>2KUOlƵ=7HClДǙSHADE ƍƿƻǥ>2KS1tƨƵ=7H6lǙ͒>2KS3gƜֿǌƿɠɊƿƑƩ<1DĪǐƑƩ>1İƩ>1ĠƜɊƿƑƩ<3Ĩǐț<3ĮƑƩ>4ĠƑƜɊǐț<7ĵƑƩ>2ĵƩ<2ĚǐƑƜɊǐț<3ĵƩ>lɰƀɑ=7V8lʵƿƐʭɯ˱<TGl˚ψARC>FFlɊƿƐκ>2KSBmե=7I0rаǙ͒",
  ">2KRNgǮȥǥ=7F8kȹǥ>2KTPgƐֿǌƿƑƜɊƿț<1CĶƩ>ěǐɠɊƿƑƩ>GıƩ>1īǐƑƩ<4ġƜɊƿț<CįƑƩ>EĩǐƑƩ<2ġƑƜɊƿț<FĶƑƩ>IĶƩ<Imҿƨǋ=7RKmʵƿƜʭɯ˱<PRmPENCIL>NYm˚ψARC<8Jm˝ƨƵ>2JJ5ěǋ=7RMmɊƿƜκ>2KHYnե=7I1sаǙ͒>2KRNg̗ɛǥ<Ngƶɛǥ<3mʈǥ>1hіǮȹǥ<OcSIDE-DOWN Ǒ<10QcȢANCORA=93Pj،<2H0n ƍƐǮȥǥ>2LNQoȻȊ=6N9oƾȕǔƆ>VoɊȊ>1FWoƀƗƋ<1F8tǁƞ>2KVQtƒƋ=83TtȷǠƞ>2JGFtǙǠƞ<4tΥȓ>43tƖǁƞ<3SzǠƞ<Gtў˖=6NKx̼>iƯƆ>1UCoȴƨƆ>3MiɫƆ>2J03i˨Ɔ=6OXjȌƆ<Gi̓Ɔ>2KWZiɄƀǎƜ̞ǔɄƀǎƩ=86MĦȅɄƀǎƩ<BğȻȊ<3ğɊȊ<8ĞϜ<1I1ĚƐȻȊ>1I4ĠɊȊ<8ğϜ<1HYjѦƆ>2KXYoɫƆ<4i̥ʂ=6O8iʶƆ>17RiROCKET>2JCSiǸƆ>DFjѹƆ<OiǠƞ>2FqʪƆ=8KHĝ ƾȕǔǡƆ>VĞɊȊ<GĞƀΐʁ>2J07ģƗƒƋ=8L7ģǝʁ>2J01ģȂў˖=8MAĬ̼>ģǙʁ>2IYPģϪʁ<4ģ́ǝʁ>Fy˨Ɔ=8KRy̥ʂ>PlѓƆ<HNjˢѬƆ<1GRlʪǦȻƖƵ>1IHzƀǠΏ>IRiƨƆ<1ZAt ȻȊ>2Ĝ ƀƒȊ>1XPuʾPEDESTAL<1XPğ ƀƒȊ>ĥƊȊ>uΊǠƞ>2KYVoƗƆ=6PAĚ ʾPEDESTAL>bRANUS>UTbS=VaVAI ɂ>WRXeƥƬ>Qkǉ<3lȐ<1kǊ>4kǛ<8kƪ>5lIX<1kƤ<3lWO<1kǚ<2eǻǽ<IeǗƕ>eˠA<5IoN>nBA>7oE>47pE<6BoHA>21pE>47qE<6BpI>10pO>46qO<23pU>10oI<34oO>46pO<23oU>10nCA<1JoE>48pE<6DoI>10oO>47pO<24oU>10nDA<28oE>48pE<6DoHA>1ZpE>48qE<6DpHA>24qE>48rE<6DqI>10qO>47rO<24qU>10pI<36pO>47qO<24pU>10oI<31oO>47pO<24oU>10nE>1IoE<69pN>oN>68nFA<3UoE>48pE<6DoI>10oO>47pO<24oU>10nGA<1HoBA<MpE>47qE<6CqN>6CpI<5CpO>46qN>qO<24pU>10oE>2SpE<6EpN>6EoI<5EoO>47pO<24oU>10nHA<2YpN>oE>46pE<6ApN>6AoI<5BpN>oO>45pN>pO<23oU>ZpN>nI<38oN>nJA>1ToE>48pE<6DoI>10oO>47pO<24oU>10nKA<1ZpN>oE>47pE<6DoI>10oO>47pO<24oPA<1NqN>pE>46qE<6BqN>6BpI<5BpO>46qO<23pU>10oU>KnLA<2EoE>48pE<6DpNGTHENER>6XoI<5XoO>47pO<24oU>10nMA<1MoBA<RpE>47qE<6BpI>10pO>46qO<23pU>10oE>2XpE<6FoGBA>1GqE>47rE<6CqI>10qO>46rO<23qU>10oI<2IoO>47pO<24oU>10nNA<20oDA<EpE>48qE<6DpI>10pO>47qLE DO>2GtFA<RtKA>tMA>Ot",
  "SOO<OqO<3WpU>10oE>2LpE<6FoG>6GpAN<5CpEN>47pGA<3BqE>47rE<6DrN>6DqI<5DqO>47rO<24qU>10pON>6oI<39oJA>WpE>48qE<6DpI>10pO>47qO<24pU>10oO>18pO<24oU>10oYA<20pE>49qE<6FpI>10pO>47qO<24pU>10nO>oN>oO<22pN>nPA<YoE>47pE<6BoI>10oO>46pO<23oU>10nRA<1OoE>48pE<6DoI>10oO>47pO<24oU>10nSA<1ZoE>48pE<6DoHA>24pE>48qE<6DpI>10pO>47qO<24pU>10oI<36oO>47pO<24oU>10nTA<2AoE>48pE<6DoHA>24pE>48qE<6DpI>10pO>47qO<24pU>10oI<36oO>47pO<24oU>10nU<FoN>nVA<1PoE>48pE<6DoI>10oO>47pO<24oU>10nWA<2DpN>oE>46pE<6BqN>pN>6AoI<5BpN>oO>45pN>pO<24qN>oU>ZpN>nYA<1DoE>48pE<6DoI>10oO>47pO<24oU>10nZA<27oE>48pE<6DoHA>24pE>48qE<6DpI>10pO>47qO<24pU>10oI<36oO>47pO<24oU>10g֚BANG>2WlDANG>2mO-O>3nONG<3lFAA<3mEENG<5lJONG>BlKEENG<Bmأ>7lNII<6lTAA>2m֓<4mONG>7cMPIRE>1V3XcRIATION SELECTOR-1<1DQZu0>8v0>IA15v1>v2>v3>v4>v5>v6>v7>v8>v9>u1<IA1Ev0>IA1Ev1>v2>v3>v4>v5>v6>v7>v8>v9>u2<IA1Nv0>IA1Nv1>v2>v3>v4>v5>v6>v7>v8>v9>u3<IA1Wv0>IA1Wv1>v2>v3>v4>v5>v6>v7>v8>v9>u4<IA25v0>IA25v1>v2>v3>v4>v5>v6>v7>v8>v9>u5<IA2Ev0>IA2Ev1>v2>v3>v4>v5>v6>v7>v8>v9>u6<IA2Nv0>IA2Nv1>v2>v3>v4>v5>v6>v7>v8>v9>u7<48v0>48v1>v2>v3>v4>v5>v6>v7>v8>v9>u8<4Hv0>4Hv1>v2>v3>v4>v5>v6>v7>v8>v9>u9<4Qv0>4Qv1>v2>v3>v4>v5>v6>v7>v8>v9>t2<IA45u0>I9Z5v0>4Zv1>v2>v3>v4>v5>v6>v7>v8>v9>u1<58v0>58v1>v2>v3>v4>v5>v6>v7>v8>v9>u2<5Hv0>5Hv1>v2>v3>v4>v5>v6>v7>v8>v9>u3<5Qv0>5Qv1>v2>v3>v4>v5>v6>v7>v8>v9>u4<5Zv0>5Zv1>v2>v3>v4>v5>v6>v7>v8>v9>u5<68v0>68v1>v2>v3>v4>v5>v6>u6<6Eu7>u8>u9>t3<I9ZEu0>I9ZEu1>u2>u3>u4>u5>u6>u7>u8>u9>t4<I9ZNu0>I9ZNu1>u2>u3>u4>u5>u6>u7>u8>u9>t5<I9ZWu0>I9ZWu1>u2>u3>u4>u5>u6>u7>u8>u9>t6<IA05u0>IA",
  "05u1>u2>u3>u4>u5>u6>u7>u8>u9>t7<IA0Eu0>IA0Eu1>u2>u3>u4>u5>u6>u7>u8>u9>t8<IA0Nu0>IA0Nu1>u2>u3>u4>u5>u6>u7>u8>u9>t9<IA0Wu0>IA0Wu1>u2>u3>u4>u5>u6>u7>u8>u9>bECTOR ʵоʋ=8BZcDIC ƙ͚ԣ<2MEuBAHIRGOMUKHA>uUBHAYATO MUKHA>6uVAMAGOMUKHA<6ğ ƀȓ>mRDHAVISARGA>5mTIKRAMA>4lƗ͚ԣ>2lHEXIFORM ȂƸ<Cl˂>6lȂƸ<6lNIHSHVASA<SlȀԇЂ>IĜء<2mϭARDHAVISARGA>EmTHANG ȂƸ<3lTIRYAK<3lˇ>8lԇЂ<Hě ƀȓ>2t˵<6tء>z ƀȓ>3lֱMIDLINE ˵<JgȄATHARVAVEDIC ɷ˵>Clϟƅ>IsƇ<SlƽƇ>4nȔȑƅ>Rs˵<VlKARSHANA<AnTHAKA Ђ>BlPRENKHA<AlRIGVEDIC KASHMIRI ɷ˵>DnNG ƅ>NlSHARA<13lƶǇƇ>Dmї˵<4mˢǇƇ>2lֱAGGRAVATED ɷ˵<9wɷ˵>wKATHAKA ɷ˵>ı SCHROEDER>1cRSICLE>UHdTICAL ̞̄ƐƧ>1POnƗƜʧ>7NnɣƐʧ<2nƀƒƋ<M0j˒<YKjɗʃ<I8jͅɧƕ>34SjKANA ѻƕ<Az ƿʽ>3Ěǐʽ<2vƀ˹ʘƕ<1ī ǐʽ>1jɮ=3Gn ʢ>6Z7oƀǟƅ>1EMĚƇ>tƑɑ<1GXjѳƀȪƏ>MGjǮȥBLOCK-2>2KLJĚ3>Ě4>Ě5>Ě6>Ě7>jSIX ʃ=94TjؔKEY<JImULATION=Bt SET>3IkILDE>90KkRAFFIC ȱ>2I5Yj͘ɮ=87UdY ΐ˩Ⱥ>2J9MfǝʯǲƯȩ>16rȨǂ<HlɖȨǂ<Cl˩Ⱥ<Dlʷˆ<89l˯>8FmԔȨǂ>Bm׾<8TlƨƵ>7Frǋ>9fMUCH ǒ=6VTkǿ<1cSTA>RHbIBRATION MODE>2JB0cCTORY ͹=7POcDEO CAMERA>2J8SgGAME<97fCASSETTE>99cETNAMESE ȎREADING ǴCA<QA4ĢNHAY>dWDATA ǋ=6XJcOLIN>2JS3cRGO=7KDcTHKUQI ƢƃA>182QyBBE>zE>yCE>zHE>yDE>zHE>yE>1zI<1yFE>1yGA>yHA>1zHA>yI>zJE>yJE>yKA>yLA>zLA>yME>yNE>zJE>yO>yPE>yQA>yRE>ySE>1zHE>yTE>zHE>yU>yVE>yXE>yY>1yZE>jƖƃA>1wBBE>xE>wCE>xHE>wDE>xHE>wE>1xI<1wFE>1wGA>wHA>1xHA>wI>xJE>wJE>wKA>wLA>xLA>wME>wNE>xJE>wO>wPE>wQA>wRE>wSE>1xHE>wTE>xHE>wU>wVE>wXE>wY>1wZE>bOIDED ˩Ⱥ>1CLAcLCANO<1PSdLEYBALL>5GdUME ɝ=6R4bS1>17F3d0>8e0>IA15e1>e2>e3>e4>e5>e6>e7>e8>e9>d1<IA1Ee0>IA1Ee1>e2>e3>e4>e5>e6>e7>e8>e9>d2<IA1Ne0>IA1Ne1>e2>e3>e4>e5>e6>e7>e8>e9>d3<IA1We0>IA1We1>e2>e3>e4>",
  "e5>e6>e7>e8>e9>d4<IA25e0>IA25e1>e2>e3>e4>e5>e6>e7>e8>e9>d5<IA2Ee0>IA2Ee1>e2>e3>e4>e5>e6>e7>e8>e9>d6<IA2Ne0>IA2Ne1>e2>e3>e4>e5>e6>e7>e8>e9>d7<48e0>48e1>e2>e3>e4>e5>e6>e7>e8>e9>d8<4He0>4He1>e2>e3>e4>e5>e6>e7>e8>e9>d9<4Qe0>4Qe1>e2>e3>e4>e5>e6>e7>e8>e9>c2<IA45d0>I9Z5e0>4Ze1>e2>e3>e4>e5>e6>e7>e8>e9>d1<58e0>58e1>e2>e3>e4>e5>e6>e7>e8>e9>d2<5He0>5He1>e2>e3>e4>e5>e6>e7>e8>e9>d3<5Qe0>5Qe1>e2>e3>e4>e5>e6>e7>e8>e9>d4<5Ze0>5Ze1>e2>e3>e4>e5>e6>e7>e8>e9>d5<68e0>68e1>e2>e3>e4>e5>e6>d6<6Ed7>d8>d9>c3<I9ZEd0>I9ZEd1>d2>d3>d4>d5>d6>d7>d8>d9>c4<I9ZNd0>I9ZNd1>d2>d3>d4>d5>d6>d7>d8>d9>c5<I9ZWd0>I9ZWd1>d2>d3>d4>d5>d6>d7>d8>d9>c6<IA05d0>IA05d1>d2>d3>d4>d5>d6>d7>d8>d9>c7<IA0Ed0>IA0Ed1>d2>d3>d4>d5>d6>d7>d8>d9>c8<IA0Nd0>IA0Nd1>d2>d3>d4>d5>d6>d7>d8>d9>c9<IA0Wd0>IA0Wd1>d2>d3>d4>d5>d6>d7>d8>d9>bT=BcS>3IbULCANUS>8KBdҏȶɖԼ<22XvSIXTHS<3r͎ך<2qǮс>2uFIFTH<6uʽ=59uNINTH>6FNu˭=58uSEVENTH>6FNvIXTH>8uTENTH<7vHIRD>q̗Լ>AqƶԼ<2wך<5w͐=5Arˢך>6FRu϶<2qֳ϶>1GaWAFFLE>2LA5cNCHO ƥƬ<4I7nǉ<3oȐ<1nǊ>4nǛ<8nƪ>5oIX<1nƤ<3oWO<1nǚ<2hƃA<1BpA<1qN>13rG<5pNG>pU<EoBA<KoCA>oDA>oE>MpN>BoFA<QoGA<8oHA>KoI>1pNG>8oJA<LoKA>3pHA>4oLA<HpLHA>MoMA<7oNA<FpGA>JpYA>BoO<KpN>GqG<4oPA<OpHA<3oRA>FoSA<9pHA>oTA<4pHA>pRA>KpSA<1oU<2pEN>BoVA<NoWA<1oYA<CpIH>10oZA<QhNGUN Ə>19hȄKOI<HpNI>mTUP<3pNI>dɜҌόƌ>36YhGIBBOUS όƌ<2cRANG CITI ƢƃA<175HĜM>KĜNG<CĜT>AěBU>1ěDA<3ěE<CĜNN>7ĝY<3ěGA<2ěз>GĜIYO<3ĜOLO>ĝRR>ěII<LěKO>5ěNGAA<CĜأ>IěO<AĜDD>7ěPU>6ěSII>5ĜSUU<1ěTTE<BěUC<3ĜU<8ěVIYO>NěWI<TěYA>1ĜO>ĜU<2ĝJ>AmƥƬ>1Lsǉ<3tȐ<1sǊ>4sǛ<8sƪ>5tIX<1sƤ<3tWO<1sǚ<2mƹה>Gtɲ<3uΦ<1t׺>4tը<2uIXTY<1tʚ<5u˾>1uȽ<1mOM>Jm",
  "ƖƃA<1QĚM>KĚNG<CĚT>AzBU>1zDA<3zE<CĚNN>7ěY<3zGA<2zз>GĚIYO<3ĚOLO>ěRR>zII<LzKO>5zNGAA<CĚأ>IzO<AĚDD>7zPU>6zSII>5ĚSUU<1zTTE<BzUC<3ĚU<8zVIYO>NzWI<TzYA>1ĚO>ĚU<2ěJ>AdNING Ə=7MOcSTEBASKET>2JHScTCH=6XMdחBUFFALO>2JU0gCLOSET>JEgPOLO>HQgѡ<183fMELON>1QcԆǦƦDIRECTLY Ƿ=8JJĝƩ<EKf̊>1D4dɜƯу>2H93h̪Ə>2Ehƨу<2GdY ̊=9IOfɮ<2LLgҭɮ>17BBfΧ<4cXING Ҍόƌ>1CCMhGIBBOUS όƌ>1bEARY ԮǑ>MJgǑ<NcDDING<BBdGE-TAILED ƔƆ=7UKcIERSTRASS ELLIPTIC FUNCTION<1B8dGHT LIFTER>2K6QcST SYRIAC Ⱥ=7LCbHALE>2J6IcEEL>K2f ȕDHARMA=7JSfCHAIR ƌ>1YcITE ǦSHAFT ԋǛ>2K30yȉ϶>ġ=7HIgCHESS Ϟ>34s ǨȈƴ>2KDWěȉǕȒƴ>15mт>Hw ǨȈƴ>2mҕ=7KKq ǨȈƴ>2KDWzȉǕȒƴ>15nώ=7KOs ǨЏƴ>2KDPěȈƴ>6ěǮǕϷƴ>DěƶǕЍƴ>15ĜˢǕȒƴ<Eħϸƴ<7s-BISHOP>Vtϔ<2tҠ>m՞=7KPq ǨȈƴ>2KDWzȉǕȒƴ>15mϔ=7KLr ǨȈƴ>2KDWĚȉǕȒƴ>15mҠ=7KMq ǨȈƴ>2KDWzȉǕȒƴ>15m˷Ϟ<Ktҕ<3uώ>3t՞>tϔ<4tҠ>hIRCLE=7GRm ̈ƯƖƵ>2JZYnƀƽƩ=7LYuյƆ>O5sƿƜ˙<S7yƐ˙>sȉʃ>40sǐƜ˙<43yƐ˙>2hLUB Ң>33hONCAVE-SIDED Ǻ>AHě ƀƾӽ>ġƔӽ>gǺ<F0n ̈ƯǙǺ>2K0JğƖǺ=7GOğ́ƖǺ>2K0Ho̎ǋ=7NVoҢ<2XoƀCENTRED ɑ>A5h؁ƦʠǼ>2IYEuǼ=7J3uƜ̪Ǽ>2JJRkȬƖƧ=7GFuƧ<2hRAUGHTS ҕ>77pҗ<1gǬǴƭ>44gу<5Hk ƀƒƑƯSTRIPE>32iORETTE>1SjWER>2J59h͎ǲCUSP=8NItȩ<X3hROWNING Ǒ<6Mg֎ɈՀ׏>2JJLhEART>O1l Ң=7KXjVY Αƕ>4JmSALTIRE ƀάϢ>2KL6iXAGON=8IPhˬѧ>Biճ<9Jgȷǋ>91iTIN Ⱥ>2II1hҎLANE MERGE=7O9lƦʠǼ>2J5AuǼ=7J0kȬա<2FuƖƧ<2uƧ<2hOZENGE ̈ƯƖ͈>2K0UgǙǺ=8IUn͈>1nƖǋ<10Roϓ<2oؗ>11WhOON SELENA>3WgNIB<Y4gԚ<9ShENNANT>2JB3jTAGON=8IOgǗǴƭ<R0gͤ<BRhɶƦʠǼ>2JDNvǼ=7J2lȬӮ>111wOINTER<13TvƖƧ<2vƧ<2gή>98hESAME ɑ>16IPhHOGI ϑ=7IUhȸ͈>104mǋ<134nؗ>146iILING Ǒ<108hPADE Ң>15hϓ<5Fm ׂ>2JKHn̈ƯǙǋ>GXĞƖǋ=7FNĞ́Ɩǋ>2K1CnƀɠƊɮ=70Lsƾӽ>V2tϐƜ˙<DVyƐ˙>sƔӽ>DUt՜Ϣ<G3sǐƜ˙>25yƐ˙>2sƊBISECTING ɮ<8hؗ>QhUN>2J30j BEHIN",
  "D CLOUD>1w ƀբ>kƀRAYS=7JWpƖCLOUD>2J1JgϘ=7INhOUCHTONE Ϙ>2JJIhRAPEZIUM=736iѮ̈ƖƨƧ>RIhWO-WAY ƜWAY ձ<6IgʨƦʠǼ>2J5AsǼ=7J1iȬCHEVRON>2KRWsƖƧ=7G5sƧ<2Ě ƀɑ>1KgƊȊ>101pѧ>1Cpͤ<134jY Ɩǋ>12MfϼƔƆ<OBb֑ǔǎƆ>2JSNwǝǎƆ>FwȡǎƆ<OwǙǎƆ>FẃǝǎƆ>FmƾǎƆ<RwǝǎƆ>FwȡǎƆ<OwǙǎƆ>FẃǝǎƆ>FmɩɱǎƆ<JxǝǎƆ>FxȡǎƆ<OxǙǎƆ>Fx́ǝǎƆ>Fs̘ǎƆ<PxǝǎƆ>FxȡǎƆ<OxǙǎƆ>Fx́ǝǎƆ>FmƔǎƆ<QxǝǎƆ>FxȡǎƆ<OxǙǎƆ>Fx́ǝǎƆ>FmˍɱǎƆ<KxǝǎƆ>FxȡǎƆ<OxǙǎƆ>Fx́ǝǎƆ>Fs̘ǎƆ<NxǝǎƆ>FxȡǎƆ<OxǙǎƆ>Fx́ǝǎƆ>FmȅǎƆ<UuǝǎƆ>FuȡǎƆ<OuǙǎƆ>FúǝǎƆ>FcGGLY Ɗɮ=94UcLTED FLOWER>2IO1cѴBLOWING Ǒ<178fCHIME>2ReOW>1E6dE Ӌ<1EWd֖Ǒ>I9cϯKEYBOARD<2JbJ=6E8bOLF Ǒ>2KEXcҗ>1Af ƀBUNNY EARS>5fS BOOTS<DhCLOTHES<8hHAT<8hSANDAL>EdENS ƌ>GOcN Ə=6G9cOD>2LMZcRD Ο=6E8f˲Ƒɑ>2Q8d׮MAP>2I14dM>XIdRIED Ǒ<WIbRAPPED PRESENT<IMcEATH ʋ=6RKdNCH>2K86dSTLERS>T0cITING ͹=7PPaX ̎A ؉Ԫ<RQb-RAY>2L3NbIANGQI ƯCANNON<FpHARIOT<1oELEPHANT<2oGENERAL<2o֐>2oMANDARIN<2oSOLDIER>4iϯCANNON<8nHARIOT<1mELEPHANT<2mGENERAL<2m֐>2mMANDARIN<2mSOLDIER>4bOR=6UZaYAWNING Ǒ>2KZ9bELLOW ˽<YEcN Ə=4LcZIDI ɥʄƕ>1HC5rэƕ>hHYPHENATION ƕ>hƃBE<18oCHHIM>6qIM<1pIM<1o׋>DqL<9oELIF<BpT>14pW<3pYN<FoFA>1oGAF>5oHAY>7pHA<UoJA>6oҪ>CpHAF>o֗>1r ƀƽƅ>FoMIM<Fo̢>oOW>2oPE<ZpHE>oҮ>OoRA<FpHA>o֩>4pE<Epζ>CpIN<1oTA>3pHE<HoUM>UoVA<9q ȎƁ>oͪ>8oXA<QpHEYN>DoYOT>Fr ƀɪƅ>8oZA<YqL<3pE>9bI ӲBBUT<KXNmUR>9lCHE>TmIP<5mUOP<1mY<1nP<14nT>ElDDUR>mU>KlGA<OmEP<AmGOP<1nUO>FmOT>FlHMO<9mXIT<KnOP>11nUO<WlJJIE>NnUT<DnY>AmO<2lKE>ImIT<1GlLI<1nE>15mYR<XlMI<2mOP>3lNBIE>14mYIP<1EnOP>JmZUP>ClOP<BlPUT<BmYT>DlQOT<SlSHAT>1BnOP>1nUR<8nY<AmSI<RlTAT>AmU>7lVEP>8mUR<2lWO>8lYIT<AmO<HlZA>KmOT<7mUP<9nR>UmZIET>2dˠA<XMnP>nT<3nX>mBA>MoP>oT<3oX",
  ">nBA>1SpP>pT<3pX>oE>ApP>pX<2oI<HpE>3qP>qT<3qX>pP<2pT<3pX>oO>FpP>pT<3pX>oU>7pO<BqP>qX<2pP>CpR>1qX<1pT<4pX>oY>6pP>pT<3pX>nE<21oP>oX<2nI<HoE>3pP>pT<3pX>oP<2oT<3oX>nO>FoP>oT<3oX>nU>7oO<BpP>pX<2oP>CoR>1pX<1oT<4oX>nY>6oP>oR>1pX<1oT<4oX>mCA>HWoP>oT<3oX>nE>AoP>oX<2nHA>4HpP>pT<3pX>oE>CpP>pT<3pX>oO<3pP>pT<3pX>oU>7pO<BqP>qT<3qX>pP>CpR>1qX<1pX<3oY>6pP>pR>1qX<1pT<4pX>nI<5JoE>3pP>pT<3pX>oP<2oT<3oX>nO>FoP>oT<3oX>nU>7oO<BpP>pX<2oP>CoR>1pX<1oT<4oX>nY>6oP>oR>1pX<1oT<4oX>mDA<CIoP>oT<3oX>nDA>1IpP>pT<3pX>oE>ApP>pX<2oI<GpE>2qP>qX<2pP<1pT<3pX>oO>EpP>pT<3pX>oU>7pO<BqP>qX<2pP>CpR>1qX<1pT<4pX>nE<1MoP>oX<2nI<FoE>2pP>pX<2oP<1oT<3oX>nO>DoP>oT<3oX>nU>7oO<ApX<1oP>BoR>1pX<1oT<4oX>mE<75nX<1mFA>5BoP>oT<3oX>nI<3oP>oT<3oX>nO>7oP>oX<2nU>4oP>oR>1pX<1oT<4oX>nY>6oP>oT<3oX>mGA>78oP>oT<3oX>nE>CoP>oT<3oX>nGA>18pP>pT<3pX>oE>CpP>pT<3pX>oI<HpE>1qP>qX<2pT<3pX>oO>EpP>pT<3pX>oU>8pO<CqP>qT<3qX>pP>DpR>1qX<1pT<4pX>nI<27oE>3pP>pT<3pX>oP<2oT<3oX>nO>GoP>oT<3oX>nU>8oO<CpP>pT<3pX>oP>DoR>1pX<1oT<4oX>mHA>3JoP>oT<3oX>nE>BoP>oX<2nIE<DpX<1oT<1nLA<5QpP>pT<3pX>oE>9pP>pX<2oI<FpE>2qP>qX<2pP<1pT<3pX>oO>DpP>pX<2oU>7pO<AqP>qX<2pP>BpR>1qX<1pT<4pX>oY>6pP>pR>1qX<1pT<4pX>nMA<7SpP>pT<3pX>oI<6pE>2qP>qX<2pP<1pT<3pX>oO>EpP>pT<3pX>oU>4pO<8qP>qX<2pP>9pR>1qX<1pT<4pX>oY>5pP>pR>1qX<1pX<3nNA>5KpP>pT<3pX>oE>8pP>pX<2oI<FpE>3qP>qT<3qX>pP<2pT<3pX>oOP>EpT<2pX>oUO<2qX<1pT>7nO>72oP>oT<3oX>nUO<3pP>pT<3pX>nXA<12pP>pT<3pX>oE>BpP>pX<2oI<IpE>3qP>qT<3qX>pP<2pT<3pX>oO>GpP>pT<3pX>oUO<3qP>qT<3qX>mI<GHnE>3oP>oT<3oX>nP<2nT<3oERATION ƕ>KnX<KmJI>RKoE>3pP>pT<3pX>oP<2oT<3oX>nJI>",
  "1KpE>3qP>qT<3qX>pP<2pT<3pX>oO>BpP>pT<3pX>oU>4pO<8qP>qX<2pP>9pR>1qX<1pT<4pX>oY>6pP>pT<3pX>nO<1SoP>oT<3oX>nU>4oO<8pP>pT<3pX>oP>9oR>1pX<1oT<4oX>nY>6oP>oR>1pX<1oT<4oX>mKA<DYoP>oT<3oX>nE>BoP>oT<3oX>nI<HoE>2pP>pX<2oP<1oT<3oX>nO>EoP>oT<3oX>nU>8oO<CpP>pX<2oP>DoR>1pX<1oT<4oX>mLA<26oP>oT<3oX>nE>BoP>oX<2nI<IoE>3pP>pT<3pX>oP<2oT<3oX>nO>GoP>oT<3oX>nU>7oO<BpP>pT<3pX>oP>CoR>1pX<1oT<4oX>nY>6oP>oR>1pX<1oT<4oX>mMA<7YoP>oT<3oX>nE>BoX<1nGA>AApP>pT<3pX>oE>ApP>pX<2oIE<CqX<1oO>ApP>pT<3pX>oU>7pO<BqP>qX<2pP>CpR>1qX<1pT<4pX>nI<B5oE>2pP>pX<2oP<1oT<3oX>nO>FoP>oT<3oX>nU>6oO<ApP>pT<3pX>oP>BoR>1pX<1oT<4oX>nY>6oP>oT<3oX>mNA>56oP>oX<2nBA<79pP>pT<3pX>oI<6pE>2qP>qX<2pP<1pT<3pX>oO>BpP>pT<3pX>oU>4pP>pR>1qX<1pT<4pX>oY>6pP>pR>1qX<1pT<4pX>nDA>5OpP>pT<3pX>oE>7pP>pX<2oI<CpE>2qX<1pP<1pT<3pX>oO>ApP>pT<3pX>oU>7pP>pR>1qX<1pT<4pX>nE>17oP>oX<2nGA>5VpP>pT<3pX>oE>ApP>pX<2oIE<DqP>qX<2oO>BpP>pT<3pX>oUO<2qT<2qX>nI<6EoE>2pP>pX<2oP<1oT<3oX>nJI>J8pE>3qP>qT<3qX>pP<2pT<3pX>oO>ApP>pT<3pX>oU>3pO<6qX<1pP>7pR>1qX<1pX<3oY>6pP>pR>1qX<1pT<4pX>nO<JDoP>oT<3oX>nRA>EIpP>pT<3pX>oE>7pP>pT<3pX>oO<3pP>pX<2oU>8pP>pR>1qX<1pT<4pX>oY>6pP>pR>1qX<1pT<4pX>nU<ERoO<BpP>pX<2oP>CoR>1pX<1oT<4oX>nYI>JDpE>3qP>qT<3qX>pP<2pT<3pX>oO>BpP>pT<3pX>oU>4pO<8qP>qX<2pP>9pT<3pX>nZA<9WpP>pT<3pX>oE>7pX<1oI<DpE>2qP>qX<2pP<1pT<3pX>oOP>CpX<1oU>4pO<6qX<1pP>7pR>1qX<1pX<3oY>6pP>pR>1qX<1pT<4pX>mO<KZnP>nT<3nX>mPA>1CoP>oT<3oX>nI<6oE>2pP>pX<2oP<1oT<3oX>nO>EoP>oT<3oX>nU>4oO<8pP>pX<2oP>9oR>1pX<1oT<4oX>nY>6oP>oR>1pX<1oT<4oX>mQI>Q4oE>3pP>pT<3pX>oP<2oT<3oX>nO>CoP>oT<3oX>nU>4oO<8pP>pT<3pX>o",
  "P>9oR>1pX<1oT<4oX>nY>6oP>oR>1pX<1oT<4oX>mRA<23oP>oT<3oX>nE>AoP>oX<2nO<2oP>oT<3oX>nRA<29pX<1oE>9pP>pT<3pX>oO<3pP>pT<3pX>oU>8pO<BqX<1pP>CpR>1qX<1pT<4pX>oY>6pP>pR>1qX<1pT<4pX>nU>1YoO<BpP>pX<2oP>CoR>1pX<1oT<4oX>nY>6oP>oR>1pX<1oT<4oX>mSA<5LoP>oT<3oX>nE>AoP>oX<2nHA>41pP>pT<3pX>oE>BpP>pT<3pX>oO<3pP>pT<3pX>oU>8pO<CqP>qX<2pP>DpR>1qX<1pT<4pX>oY>6pP>pR>1qX<1pT<4pX>nI<52oE>2pP>pX<2oP<1oT<3oX>nO>EoP>oT<3oX>nSA>QpP>pT<3pX>oE>7pP>pX<2oI<DpE>2qP>qX<2pP<1pT<3pX>oO>BpP>pT<3pX>oU>7pP>pT<3pX>oY>4pP>pR>1qX<1pT<4pX>nU<XoO<BpP>pX<2oP>CoR>1pX<1oT<4oX>nY>6oP>oR>1pX<1oT<4oX>mTA<EAoP>oT<3oX>nE>BoP>oX<2nI<HoE>2pP>pX<2oP<1oT<3oX>nO>FoP>oT<3oX>nU>7oO<BpP>pT<3pX>oP>CoR>1pX<1oT<4oX>mUO<84oP>oX<2mVA>67oP>oT<3oX>nEP>7oX<1nI<EoE>3pP>pT<3pX>oP<2oT<3oX>nO>CoP>oT<3oX>nU>6oP>oR>1pX<1oT<4oX>nY>6oP>oR>1pX<1oT<4oX>mWA>AUoP>oT<3oX>nE>9oP>oX<2nO<2oP>oX<2nU<HEoO>HBpP>pX<2mXI>D6oE>3pP>pT<3pX>oP<2oT<3oX>nO>AoP>oT<3oX>nUO<2pX<1nY>7oP>oR>1pX<1oT<4oX>mYI>6oE>3pP>pT<3pX>oP<2oT<3oX>nO>CoP>oT<3oX>nU>4oO<8pP>pT<3pX>oP>9oR>1pX<1oT<4oX>nY>6oP>oR>1pX<1oT<4oX>mZA<DUoP>oT<3oX>nE>AoP>oX<2nHA>4OpP>pT<3pX>oE>BpP>pT<3pX>oO<3pP>pT<3pX>oU>8pO<CqP>qX<2pP>DpR>1qX<1pT<4pX>oY>6pP>pR>1qX<1pT<4pX>nI<5PoE>2pP>pX<2oP<1oT<3oX>nO>EoP>oT<3oX>nU>7oO<BpP>pX<2oP>CoR>1pX<1oT<4oX>nY>6oP>oR>1pX<1oT<4oX>nZA>1CpP>pT<3pX>oE>6pP>pX<2oI<DpE>3qP>qT<3qX>pP<2pT<3pX>oO>BpP>pX<2oU>6pP>pR>1qX<1pX<3oY>6pP>pR>1qX<1pT<4pX>cN ة<OMXbO-YO>2KI8aZ ҚBAG MEMBERSHIP=6WVlDOMAIN Ҧ>1GKlƜBINDING Ɠ<63qчƓ<2lӳҦ>65mELATIONAL տ<13mɶBINDING Ɠ<50rчƓ<2lSCHEMA տ>46sPIPING>tROJECTION>mPOT<4G",
  "lTYPE ʍ>bANABAZAR ɁCLOSING ԏ̌ƕ>1BK3žƕ<6tUSTER-FINAL ƃLA<3ĦRA<1ĦVA>1ĦYA<3zƂƃRA<1rƄȏƕ<7rƂԏ̌ƕ>Hžƕ<6rƃ-A<MyA<15yBA>VzHA>yCA<HzHA>yDA>9zDA<5ĚHA>zHA>4zZA>8ĚHA>yGA<PzHA>yHA>YyJA<VyKA<7zHA>zSSA>11yLA<6yMA<AyNA<5zGA<EzNA>8zYA<5yPA>AzHA>yRA>BySA>4zHA<2zSA>yTA<MzHA>zSA>8ĚHA>zTA<GĚHA>yVA>NyYA<3yZA<2zHA<1rǴƗΰ>RwȂ҈>wΰ<2w҈<1rƙƸ<9wϟƀƭ<1ĜBINDU<2ġ ƀƭ>wǤ<2yɟ>4sUBJOINER>DrƷɔƕ<1PxƙAI<3ĝU>ĜE<4ĜI<3ĜO>4ĝE<1ĜȀI>3ĜU<6ĝE<1bEBRA Ǒ>185ScRO ԋΟ=6BXlNO-BREAK ʸ>181DnN-JOINER=6BWlʸ<1cUS>2C6bIPPER-MOUTH Ǒ>2J3HbNAMENNY ɥATTACHING ƊOMET<89Etƿ؜ӳ˕>2tǴBORZAYA<TyCHASHKA>Jğ POLNAYA>zURVED OMET>5yԷZADERZHKA<BzVOETOCHIE>8yGORAZDO NIZKO ʾǷ<1MĩƩ>BĦS KRYZHEM ʾǷ<FĳƩ>BĠVYSOKO>IyKACHKA>9zRYZH>Mĝ ʾǷ<JzUPNAYA<5yLOMKA<1yMALO POVYSHE ʾǷ<XĨƩ>BĥS ҔʾǷ<9ĳƩ>BĨ؎>3ĦTRANNO>4yNIZKO ʾǷ<QġƩ>BĞS KRYZHEM ʾǷ<FīƩ>ByOBLACHKO>18zN<PzTSECHKA>JyPODCHASHIE>Ģ ƀƊƋ>ěVERTKA<HĚVYSHE ʾǷ<VģƩ>BĠS ҔʾǷ<9ĮƩ>Bģ؎>4ġTRANNO>yRAVNO>5ĚZSEKA>9ySKOBA<1zOROCHYA NOZHKA>FzREDNE ʾǷ<1IĢƩ>BzTRANNO MALO POVYSHE>8yհ>8zOCHKA>OzSATA ʾǷ<1MġƩ>BĞS Ѳ>9yUDARKA>CyVYSOKO ʾǷ<TĢƩ>BğS ҔʾǷ<9ĭƩ>BĢ؎>5yZADERZHKA>LzELO<JĚVOK>9t؜ӳǴMRACHNO>5ĤSVETLO>ĤTRESVETLO>jNEUME CHASHKA>1OrELYUSTKA<KpԷKLYUCH>PrRBITSA<8qȌˣ<2qUDA>2DqVA V CHELNU<32pӆ>1BpGOLUBCHIK BORZY<11zMRACHNY>1zSVETLY>zTIKHY<2ĚRESVETLY>2pKHAMILO>BqLYUCH<QqOBYLA>1BqRYUK<1Gu TIKHY>sZH>1BqUFISMA>1PpMECHIK<Ov KLYUCHENEPOSTOYANNY>3ĝPOVODNY<1ĝVOY<1wPOVODNY<1pNEMKA>PpOBLAKO<2qSOKA<Hu Տʳ>4ġ˟<1wRYUKOVAYA ˟<1v˟<2vЯ>pPALKA<2DrRAKLIT<ArUK>34qEREVODKA<2Zy ʳ>qODCHASHIE>MrLKULIZMY>VpȀCHELYUSTKA<10qOG>LpSKAMEYTSA DVOECHELNAYA Ж<6Ħʳ<1ĦӰ<2Ħ˟>zϺ<3ĠVAYA ˟<",
  "1ĥհ>1zҘ<7z˟>zհ>1ĚRESVETLAYA<1qLOZHITIE>9y S Ѳ>2ěж<2zZAKRYTOE>qTATYA>6v ʳ>AwS DVUMYA ZAPYATYMI<3yѲ<6ğ I ж>1yROGOM>2yж<6Ġ I Ѳ>1ģPODCHASHIEM>5wZAKRYTAYA<4ğ S ж>rOPITSA<1Ix S OCHKOM>yƀSOROCHYA NOZHKA>2rRELA DVOECHELNAYA>1SĢ Ж>2ğП<2Ġʦ>ĩ Ж>1wGROMNAYA>2Ğ ƀʌˣ<2ĚП>4ĥ ʦ>ěʦ<3Ĥ ƀƗˣ>Īʌˣ<3wϺ<8ĝʦ<1xRYUKOVAYA>SĠ GROMNAYA>3ĩ ƀʌˣ<2ĥП>4İ ʦ>Ħʦ<3į ƀƗˣ>ĵʌˣ<3ġʦ<2ġTRYASKA>7zZHEVAYA<16wMRACHNOTIKHAYA<1wʳ>3wPOLUPOVODNAYA<2yVODNAYA>xROSTAYA<4wTIKHAYA PUTNAYA>7xRYASOGLASNAYA>HĜʦ>ĜSTRELNAYA>pVRAKHIYA ՏҘ<1YĤӰ<1Ĥ˟>1ĤЯ>yҘ<6yӰ<1y˟>1yЯ>pZANOZHEK<HrPYATAYA>7qMEYTSA>13jPRIZNAK ˘׎FLIP<1TĚKRYZH>ĚLEVEL-2<3Ġ3>ĚROG>2bOMBIE>8EWbWJ=6BXcNBSP>181DdJ=6BWcSP<1"]

end ScriptGate.CharName
