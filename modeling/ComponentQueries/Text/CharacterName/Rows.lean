/-! Rows of names of characters: letters of the common scripts, punctuation, symbols and
pictographs. -/
namespace ComponentQueries.Text

/-- The names of characters. A slash ends the words that the names of a row have in common,
and bars stand between what is behind them. -/
def nameRows : List String :=
  ["VERTICAL /TABULATION|LINE|FOUR DOTS|ELLIPSIS|MALE WITH STROKE SIGN|KANA REPEAT MARK",
   "VERTICAL /KANA REPEAT WITH VOICED SOUND MARK|KANA REPEAT MARK UPPER HALF",
   "VERTICAL /KANA REPEAT WITH VOICED SOUND MARK UPPER HALF|KANA REPEAT MARK LOWER HALF",
   "VERTICAL /IDEOGRAPHIC ITERATION MARK|TRAFFIC LIGHT",
   "NUMBER /SIGN|TEN FULL STOP|ELEVEN FULL STOP|TWELVE FULL STOP|THIRTEEN FULL STOP",
   "NUMBER /FOURTEEN FULL STOP|FIFTEEN FULL STOP|SIXTEEN FULL STOP|SEVENTEEN FULL STOP",
   "NUMBER /EIGHTEEN FULL STOP|NINETEEN FULL STOP|TWENTY FULL STOP",
   "LEFT /PARENTHESIS|SQUARE BRACKET|CURLY BRACKET|SINGLE QUOTATION MARK|DOUBLE QUOTATION MARK",
   "LEFT /SQUARE BRACKET WITH QUILL|RIGHT ARROW|RIGHT WAVE ARROW|RIGHT ARROW WITH STROKE",
   "LEFT /RIGHT DOUBLE ARROW WITH STROKE|RIGHT DOUBLE ARROW|RIGHT ARROW WITH VERTICAL STROKE",
   "LEFT /RIGHT ARROW WITH DOUBLE VERTICAL STROKE|RIGHT OPEN-HEADED ARROW|TACK",
   "LEFT /NORMAL FACTOR SEMIDIRECT PRODUCT|SEMIDIRECT PRODUCT|SEVEN EIGHTHS BLOCK",
   "LEFT /THREE QUARTERS BLOCK|FIVE EIGHTHS BLOCK|HALF BLOCK|THREE EIGHTHS BLOCK",
   "LEFT /ONE QUARTER BLOCK|ONE EIGHTH BLOCK|HALF BLACK CIRCLE|CLOSED ENTRY|ANGLE BRACKET",
   "LEFT /DOUBLE ANGLE BRACKET|CORNER BRACKET|WHITE CORNER BRACKET|BLACK LENTICULAR BRACKET",
   "LEFT /TORTOISE SHELL BRACKET|WHITE LENTICULAR BRACKET|WHITE TORTOISE SHELL BRACKET",
   "LEFT /WHITE SQUARE BRACKET|HAND TELEPHONE RECEIVER|WRITING HAND|SPEECH BUBBLE|THOUGHT BUBBLE",
   "LEFT /ANGER BUBBLE|LUGGAGE|HALF CIRCLE WITH FOUR DOTS|HALF CIRCLE WITH THREE DOTS",
   "LEFT /HALF CIRCLE WITH TWO DOTS|HALF CIRCLE WITH DOT|HALF CIRCLE",
   "RIGHT /PARENTHESIS|SQUARE BRACKET|CURLY BRACKET|SINGLE QUOTATION MARK|DOUBLE QUOTATION MARK",
   "RIGHT /SQUARE BRACKET WITH QUILL|ARROW WITH SMALL CIRCLE|ANGLE|TACK|ANGLE WITH ARC|TRIANGLE",
   "RIGHT /NORMAL FACTOR SEMIDIRECT PRODUCT|SEMIDIRECT PRODUCT|HALF BLOCK|ONE EIGHTH BLOCK",
   "RIGHT /HALF BLACK CIRCLE|ANGLE BRACKET|DOUBLE ANGLE BRACKET|CORNER BRACKET",
   "RIGHT /WHITE CORNER BRACKET|BLACK LENTICULAR BRACKET|TORTOISE SHELL BRACKET",
   "RIGHT /WHITE LENTICULAR BRACKET|WHITE TORTOISE SHELL BRACKET|WHITE SQUARE BRACKET|SPEAKER",
   "RIGHT /SPEAKER WITH ONE SOUND WAVE|SPEAKER WITH THREE SOUND WAVES|HAND TELEPHONE RECEIVER",
   "RIGHT /SPEECH BUBBLE|THOUGHT BUBBLE|ANGER BUBBLE",
   "DIGIT /ZERO|ONE|TWO|THREE|FOUR|FIVE|SIX|SEVEN|EIGHT|NINE|ONE FULL STOP|TWO FULL STOP",
   "DIGIT /THREE FULL STOP|FOUR FULL STOP|FIVE FULL STOP|SIX FULL STOP|SEVEN FULL STOP",
   "DIGIT /EIGHT FULL STOP|NINE FULL STOP",
   "LESS-THAN /SIGN|OR EQUAL TO|OVER EQUAL TO|BUT NOT EQUAL TO|OR EQUIVALENT TO|OR GREATER-THAN",
   "LESS-THAN /WITH DOT|EQUAL TO OR GREATER-THAN|BUT NOT EQUIVALENT TO",
   "GREATER-THAN /SIGN|OR EQUAL TO|OVER EQUAL TO|BUT NOT EQUAL TO|OR EQUIVALENT TO|OR LESS-THAN",
   "GREATER-THAN /WITH DOT|EQUAL TO OR LESS-THAN|BUT NOT EQUIVALENT TO",
   "LATIN CAPITAL LETTER /A|B|C|D|E|F|G|H|I|J|K|L|M|N|O|P|Q|R|S|T|U|V|W|X|Y|Z|A WITH GRAVE",
   "LATIN CAPITAL LETTER /A WITH ACUTE|A WITH CIRCUMFLEX|A WITH TILDE|A WITH DIAERESIS",
   "LATIN CAPITAL LETTER /A WITH RING ABOVE|AE|C WITH CEDILLA|E WITH GRAVE|E WITH ACUTE",
   "LATIN CAPITAL LETTER /E WITH CIRCUMFLEX|E WITH DIAERESIS|I WITH GRAVE|I WITH ACUTE",
   "LATIN CAPITAL LETTER /I WITH CIRCUMFLEX|I WITH DIAERESIS|ETH|N WITH TILDE|O WITH GRAVE",
   "LATIN CAPITAL LETTER /O WITH ACUTE|O WITH CIRCUMFLEX|O WITH TILDE|O WITH DIAERESIS",
   "LATIN CAPITAL LETTER /O WITH STROKE|U WITH GRAVE|U WITH ACUTE|U WITH CIRCUMFLEX",
   "LATIN CAPITAL LETTER /U WITH DIAERESIS|Y WITH ACUTE|THORN|A WITH MACRON|A WITH BREVE",
   "LATIN CAPITAL LETTER /A WITH OGONEK|C WITH ACUTE|C WITH CIRCUMFLEX|C WITH DOT ABOVE",
   "LATIN CAPITAL LETTER /C WITH CARON|D WITH CARON|D WITH STROKE|E WITH MACRON|E WITH BREVE",
   "LATIN CAPITAL LETTER /E WITH DOT ABOVE|E WITH OGONEK|E WITH CARON|G WITH CIRCUMFLEX",
   "LATIN CAPITAL LETTER /G WITH BREVE|G WITH DOT ABOVE|G WITH CEDILLA|H WITH CIRCUMFLEX",
   "LATIN CAPITAL LETTER /H WITH STROKE|I WITH TILDE|I WITH MACRON|I WITH BREVE|I WITH OGONEK",
   "LATIN CAPITAL LETTER /I WITH DOT ABOVE|J WITH CIRCUMFLEX|K WITH CEDILLA|L WITH ACUTE",
   "LATIN CAPITAL LETTER /L WITH CEDILLA|L WITH CARON|L WITH MIDDLE DOT|L WITH STROKE",
   "LATIN CAPITAL LETTER /N WITH ACUTE|N WITH CEDILLA|N WITH CARON|ENG|O WITH MACRON",
   "LATIN CAPITAL LETTER /O WITH BREVE|O WITH DOUBLE ACUTE|R WITH ACUTE|R WITH CEDILLA",
   "LATIN CAPITAL LETTER /R WITH CARON|S WITH ACUTE|S WITH CIRCUMFLEX|S WITH CEDILLA",
   "LATIN CAPITAL LETTER /S WITH CARON|T WITH CEDILLA|T WITH CARON|T WITH STROKE|U WITH TILDE",
   "LATIN CAPITAL LETTER /U WITH MACRON|U WITH BREVE|U WITH RING ABOVE|U WITH DOUBLE ACUTE",
   "LATIN CAPITAL LETTER /U WITH OGONEK|W WITH CIRCUMFLEX|Y WITH CIRCUMFLEX|Y WITH DIAERESIS",
   "LATIN CAPITAL LETTER /Z WITH ACUTE|Z WITH DOT ABOVE|Z WITH CARON",
   "LATIN SMALL LETTER /A|B|C|D|E|F|G|H|I|J|K|L|M|N|O|P|Q|R|S|T|U|V|W|X|Y|Z|SHARP S|A WITH GRAVE",
   "LATIN SMALL LETTER /A WITH ACUTE|A WITH CIRCUMFLEX|A WITH TILDE|A WITH DIAERESIS",
   "LATIN SMALL LETTER /A WITH RING ABOVE|AE|C WITH CEDILLA|E WITH GRAVE|E WITH ACUTE",
   "LATIN SMALL LETTER /E WITH CIRCUMFLEX|E WITH DIAERESIS|I WITH GRAVE|I WITH ACUTE",
   "LATIN SMALL LETTER /I WITH CIRCUMFLEX|I WITH DIAERESIS|ETH|N WITH TILDE|O WITH GRAVE",
   "LATIN SMALL LETTER /O WITH ACUTE|O WITH CIRCUMFLEX|O WITH TILDE|O WITH DIAERESIS",
   "LATIN SMALL LETTER /O WITH STROKE|U WITH GRAVE|U WITH ACUTE|U WITH CIRCUMFLEX",
   "LATIN SMALL LETTER /U WITH DIAERESIS|Y WITH ACUTE|THORN|Y WITH DIAERESIS|A WITH MACRON",
   "LATIN SMALL LETTER /A WITH BREVE|A WITH OGONEK|C WITH ACUTE|C WITH CIRCUMFLEX",
   "LATIN SMALL LETTER /C WITH DOT ABOVE|C WITH CARON|D WITH CARON|D WITH STROKE|E WITH MACRON",
   "LATIN SMALL LETTER /E WITH BREVE|E WITH DOT ABOVE|E WITH OGONEK|E WITH CARON",
   "LATIN SMALL LETTER /G WITH CIRCUMFLEX|G WITH BREVE|G WITH DOT ABOVE|G WITH CEDILLA",
   "LATIN SMALL LETTER /H WITH CIRCUMFLEX|H WITH STROKE|I WITH TILDE|I WITH MACRON|I WITH BREVE",
   "LATIN SMALL LETTER /I WITH OGONEK|DOTLESS I|J WITH CIRCUMFLEX|K WITH CEDILLA|KRA",
   "LATIN SMALL LETTER /L WITH ACUTE|L WITH CEDILLA|L WITH CARON|L WITH MIDDLE DOT|L WITH STROKE",
   "LATIN SMALL LETTER /N WITH ACUTE|N WITH CEDILLA|N WITH CARON|N PRECEDED BY APOSTROPHE|ENG",
   "LATIN SMALL LETTER /O WITH MACRON|O WITH BREVE|O WITH DOUBLE ACUTE|R WITH ACUTE",
   "LATIN SMALL LETTER /R WITH CEDILLA|R WITH CARON|S WITH ACUTE|S WITH CIRCUMFLEX",
   "LATIN SMALL LETTER /S WITH CEDILLA|S WITH CARON|T WITH CEDILLA|T WITH CARON|T WITH STROKE",
   "LATIN SMALL LETTER /U WITH TILDE|U WITH MACRON|U WITH BREVE|U WITH RING ABOVE",
   "LATIN SMALL LETTER /U WITH DOUBLE ACUTE|U WITH OGONEK|W WITH CIRCUMFLEX|Y WITH CIRCUMFLEX",
   "LATIN SMALL LETTER /Z WITH ACUTE|Z WITH DOT ABOVE|Z WITH CARON|LONG S|REVERSED C",
   "NOT /SIGN|AN ELEMENT OF|PARALLEL TO|TILDE|ASYMPTOTICALLY EQUAL TO|ALMOST EQUAL TO|EQUAL TO",
   "NOT /IDENTICAL TO|EQUIVALENT TO|LESS-THAN|GREATER-THAN|A SUBSET OF|A SUPERSET OF|TRUE",
   "NOT /SQUARE IMAGE OF OR EQUAL TO|SQUARE ORIGINAL OF OR EQUAL TO|NORMAL SUBGROUP OF",
   "NOT /NORMAL SUBGROUP OF OR EQUAL TO",
   "VULGAR FRACTION /ONE QUARTER|ONE HALF|THREE QUARTERS|ONE SEVENTH|ONE NINTH|ONE TENTH",
   "VULGAR FRACTION /ONE THIRD|TWO THIRDS|ONE FIFTH|TWO FIFTHS|THREE FIFTHS|FOUR FIFTHS",
   "VULGAR FRACTION /ONE SIXTH|FIVE SIXTHS|ONE EIGHTH|THREE EIGHTHS|FIVE EIGHTHS|SEVEN EIGHTHS",
   "VULGAR FRACTION /ZERO THIRDS",
   "GREEK CAPITAL LETTER /HETA|ARCHAIC SAMPI|PAMPHYLIAN DIGAMMA|YOT|ALPHA WITH TONOS",
   "GREEK CAPITAL LETTER /EPSILON WITH TONOS|ETA WITH TONOS|IOTA WITH TONOS|OMICRON WITH TONOS",
   "GREEK CAPITAL LETTER /UPSILON WITH TONOS|OMEGA WITH TONOS|ALPHA|BETA|GAMMA|DELTA|EPSILON",
   "GREEK CAPITAL LETTER /ZETA|ETA|THETA|IOTA|KAPPA|LAMDA|MU|NU|XI|OMICRON|PI|RHO|SIGMA|TAU",
   "GREEK CAPITAL LETTER /UPSILON|PHI|CHI|PSI|OMEGA|IOTA WITH DIALYTIKA|UPSILON WITH DIALYTIKA",
   "GREEK CAPITAL LETTER /SHO|SAN",
   "GREEK SMALL LETTER /HETA|ARCHAIC SAMPI|PAMPHYLIAN DIGAMMA|IOTA WITH DIALYTIKA AND TONOS",
   "GREEK SMALL LETTER /ALPHA WITH TONOS|EPSILON WITH TONOS|ETA WITH TONOS|IOTA WITH TONOS",
   "GREEK SMALL LETTER /UPSILON WITH DIALYTIKA AND TONOS|ALPHA|BETA|GAMMA|DELTA|EPSILON|ZETA|ETA",
   "GREEK SMALL LETTER /THETA|IOTA|KAPPA|LAMDA|MU|NU|XI|OMICRON|PI|RHO|FINAL SIGMA|SIGMA|TAU",
   "GREEK SMALL LETTER /UPSILON|PHI|CHI|PSI|OMEGA|IOTA WITH DIALYTIKA|UPSILON WITH DIALYTIKA",
   "GREEK SMALL LETTER /OMICRON WITH TONOS|UPSILON WITH TONOS|OMEGA WITH TONOS|ARCHAIC KOPPA",
   "GREEK SMALL LETTER /STIGMA|DIGAMMA|KOPPA|SAMPI|SHO|SAN",
   "GREEK /NUMERAL SIGN|LOWER NUMERAL SIGN|YPOGEGRAMMENI|SMALL REVERSED LUNATE SIGMA SYMBOL",
   "GREEK /SMALL DOTTED LUNATE SIGMA SYMBOL|SMALL REVERSED DOTTED LUNATE SIGMA SYMBOL",
   "GREEK /QUESTION MARK|TONOS|DIALYTIKA TONOS|ANO TELEIA|CAPITAL KAI SYMBOL|BETA SYMBOL",
   "GREEK /THETA SYMBOL|UPSILON WITH HOOK SYMBOL|UPSILON WITH ACUTE AND HOOK SYMBOL",
   "GREEK /UPSILON WITH DIAERESIS AND HOOK SYMBOL|PHI SYMBOL|PI SYMBOL|KAI SYMBOL",
   "GREEK /LETTER ARCHAIC KOPPA|LETTER STIGMA|LETTER DIGAMMA|LETTER KOPPA|LETTER SAMPI",
   "GREEK /KAPPA SYMBOL|RHO SYMBOL|LUNATE SIGMA SYMBOL|LETTER YOT|CAPITAL THETA SYMBOL",
   "GREEK /LUNATE EPSILON SYMBOL|REVERSED LUNATE EPSILON SYMBOL|CAPITAL LUNATE SIGMA SYMBOL",
   "GREEK /RHO WITH STROKE SYMBOL|CAPITAL REVERSED LUNATE SIGMA SYMBOL",
   "GREEK /CAPITAL DOTTED LUNATE SIGMA SYMBOL|CAPITAL REVERSED DOTTED LUNATE SIGMA SYMBOL",
   "COPTIC CAPITAL LETTER /SHEI|FEI|KHEI|HORI|GANGIA|SHIMA|DEI",
   "COPTIC SMALL LETTER /SHEI|FEI|KHEI|HORI|GANGIA|SHIMA|DEI",
   "CYRILLIC CAPITAL LETTER /IE WITH GRAVE|IO|DJE|GJE|UKRAINIAN IE|DZE|BYELORUSSIAN-UKRAINIAN I",
   "CYRILLIC CAPITAL LETTER /YI|JE|LJE|NJE|TSHE|KJE|I WITH GRAVE|SHORT U|DZHE|A|BE|VE|GHE|DE|IE",
   "CYRILLIC CAPITAL LETTER /ZHE|ZE|I|SHORT I|KA|EL|EM|EN|O|PE|ER|ES|TE|U|EF|HA|TSE|CHE|SHA",
   "CYRILLIC CAPITAL LETTER /SHCHA|HARD SIGN|YERU|SOFT SIGN|E|YU|YA",
   "CYRILLIC SMALL LETTER /A|BE|VE|GHE|DE|IE|ZHE|ZE|I|SHORT I|KA|EL|EM|EN|O|PE|ER|ES|TE|U|EF|HA",
   "CYRILLIC SMALL LETTER /TSE|CHE|SHA|SHCHA|HARD SIGN|YERU|SOFT SIGN|E|YU|YA|IE WITH GRAVE|IO",
   "CYRILLIC SMALL LETTER /DJE|GJE|UKRAINIAN IE|DZE|BYELORUSSIAN-UKRAINIAN I|YI|JE|LJE|NJE|TSHE",
   "CYRILLIC SMALL LETTER /KJE|I WITH GRAVE|SHORT U|DZHE",
   "HEBREW LETTER /ALEF|BET|GIMEL|DALET|HE|VAV|ZAYIN|HET|TET|YOD|FINAL KAF|KAF|LAMED|FINAL MEM",
   "HEBREW LETTER /MEM|FINAL NUN|NUN|SAMEKH|AYIN|FINAL PE|PE|FINAL TSADI|TSADI|QOF|RESH|SHIN|TAV",
   "DOUBLE /VERTICAL LINE|LOW LINE|LOW-9 QUOTATION MARK|HIGH-REVERSED-9 QUOTATION MARK|DAGGER",
   "DOUBLE /PRIME|EXCLAMATION MARK|QUESTION MARK|INTEGRAL|VERTICAL BAR DOUBLE RIGHT TURNSTILE",
   "DOUBLE /SUBSET|SUPERSET|INTERSECTION|UNION|CURLY LOOP|PRIME QUOTATION MARK",
   "REVERSED /PRIME|DOUBLE PRIME|TRIPLE PRIME|PILCROW SIGN|SEMICOLON|SANS-SERIF CAPITAL L|TILDE",
   "REVERSED /TILDE EQUALS|ROTATED FLORAL HEART BULLET|DOUBLE PRIME QUOTATION MARK",
   "REVERSED /RAISED HAND WITH FINGERS SPLAYED|THUMBS UP SIGN|THUMBS DOWN SIGN|VICTORY HAND",
   "REVERSED /HAND WITH MIDDLE FINGER EXTENDED",
   "BLACK /LEFTWARDS BULLET|RIGHTWARDS BULLET|SQUARE|SMALL SQUARE|RECTANGLE|VERTICAL RECTANGLE",
   "BLACK /PARALLELOGRAM|UP-POINTING TRIANGLE|UP-POINTING SMALL TRIANGLE|RIGHT-POINTING TRIANGLE",
   "BLACK /RIGHT-POINTING SMALL TRIANGLE|RIGHT-POINTING POINTER|DOWN-POINTING TRIANGLE",
   "BLACK /DOWN-POINTING SMALL TRIANGLE|LEFT-POINTING TRIANGLE|LEFT-POINTING SMALL TRIANGLE",
   "BLACK /LEFT-POINTING POINTER|DIAMOND|CIRCLE|LOWER RIGHT TRIANGLE|LOWER LEFT TRIANGLE",
   "BLACK /UPPER LEFT TRIANGLE|UPPER RIGHT TRIANGLE|MEDIUM SQUARE|MEDIUM SMALL SQUARE",
   "BLACK /SUN WITH RAYS|STAR|TELEPHONE|SHOGI PIECE|LEFT POINTING INDEX|RIGHT POINTING INDEX",
   "BLACK /SMILING FACE|CHESS KING|CHESS QUEEN|CHESS ROOK|CHESS BISHOP|CHESS KNIGHT|CHESS PAWN",
   "BLACK /SPADE SUIT|CLUB SUIT|HEART SUIT|DIAMOND SUIT|UNIVERSAL RECYCLING SYMBOL",
   "BLACK /CIRCLE WITH WHITE DOT RIGHT|CIRCLE WITH TWO WHITE DOTS|FLAG|MOON LILITH|DRAUGHTS MAN",
   "BLACK /DRAUGHTS KING|SNOWMAN|TWO-WAY LEFT WAY TRAFFIC|LEFT LANE MERGE|TRUCK|CROSS ON SHIELD",
   "BLACK /SAFETY SCISSORS|SCISSORS|NIB|FOUR POINTED STAR|CENTRE WHITE STAR|FLORETTE",
   "BLACK /QUESTION MARK ORNAMENT|DIAMOND MINUS WHITE X|RIGHTWARDS ARROW|RIGHTWARDS ARROWHEAD",
   "BLACK /DROPLET|PENNANT|ROSETTE|SQUARE BUTTON|SKULL AND CROSSBONES|TOUCHTONE TELEPHONE",
   "BLACK /PUSHPIN|LEFT POINTING BACKHAND INDEX|RIGHT POINTING BACKHAND INDEX",
   "BLACK /UP POINTING BACKHAND INDEX|DOWN POINTING BACKHAND INDEX|HEART|HARD SHELL FLOPPY DISK",
   "BLACK /FOLDER",
   "MEDIUM /MATHEMATICAL SPACE|SHADE|WHITE CIRCLE|BLACK CIRCLE|SMALL WHITE CIRCLE|VERTICAL BAR",
   "MEDIUM /LEFT PARENTHESIS ORNAMENT|RIGHT PARENTHESIS ORNAMENT",
   "MEDIUM /FLATTENED LEFT PARENTHESIS ORNAMENT|FLATTENED RIGHT PARENTHESIS ORNAMENT",
   "MEDIUM /LEFT-POINTING ANGLE BRACKET ORNAMENT|RIGHT-POINTING ANGLE BRACKET ORNAMENT",
   "MEDIUM /LEFT CURLY BRACKET ORNAMENT|RIGHT CURLY BRACKET ORNAMENT",
   "DOUBLE-STRUCK /CAPITAL C|CAPITAL H|CAPITAL N|CAPITAL P|CAPITAL Q|CAPITAL R|CAPITAL Z",
   "DOUBLE-STRUCK /SMALL PI|SMALL GAMMA|CAPITAL GAMMA|CAPITAL PI|N-ARY SUMMATION",
   "DOUBLE-STRUCK /ITALIC CAPITAL D|ITALIC SMALL D|ITALIC SMALL E|ITALIC SMALL I|ITALIC SMALL J",
   "SCRIPT CAPITAL /H|I|L|P|R|B|E|F|M",
   "BLACK-LETTER CAPITAL /H|I|R|Z|C",
   "TURNED /GREEK SMALL LETTER IOTA|CAPITAL F|SANS-SERIF CAPITAL G|SANS-SERIF CAPITAL L",
   "TURNED /SANS-SERIF CAPITAL Y|AMPERSAND|SMALL F|DIGIT TWO|DIGIT THREE|WHITE SHOGI PIECE",
   "TURNED /BLACK SHOGI PIECE|OK HAND SIGN",
   "ROMAN NUMERAL /ONE|TWO|THREE|FOUR|FIVE|SIX|SEVEN|EIGHT|NINE|TEN|ELEVEN|TWELVE|FIFTY",
   "ROMAN NUMERAL /ONE HUNDRED|FIVE HUNDRED|ONE THOUSAND|ONE THOUSAND C D|FIVE THOUSAND",
   "ROMAN NUMERAL /TEN THOUSAND|REVERSED ONE HUNDRED|SIX LATE FORM|FIFTY EARLY FORM",
   "ROMAN NUMERAL /FIFTY THOUSAND|ONE HUNDRED THOUSAND",
   "SMALL ROMAN NUMERAL /ONE|TWO|THREE|FOUR|FIVE|SIX|SEVEN|EIGHT|NINE|TEN|ELEVEN|TWELVE|FIFTY",
   "SMALL ROMAN NUMERAL /ONE HUNDRED|FIVE HUNDRED|ONE THOUSAND",
   "LEFTWARDS /ARROW|ARROW WITH STROKE|WAVE ARROW|TWO HEADED ARROW|ARROW WITH TAIL",
   "LEFTWARDS /ARROW FROM BAR|ARROW WITH HOOK|ARROW WITH LOOP",
   "LEFTWARDS /ARROW TO BAR OVER RIGHTWARDS ARROW TO BAR|HARPOON WITH BARB UPWARDS",
   "LEFTWARDS /HARPOON WITH BARB DOWNWARDS|ARROW OVER RIGHTWARDS ARROW|PAIRED ARROWS",
   "LEFTWARDS /HARPOON OVER RIGHTWARDS HARPOON|DOUBLE ARROW WITH STROKE|DOUBLE ARROW",
   "LEFTWARDS /TRIPLE ARROW|SQUIGGLE ARROW|DASHED ARROW|ARROW TO BAR|WHITE ARROW",
   "LEFTWARDS /ARROW WITH VERTICAL STROKE|ARROW WITH DOUBLE VERTICAL STROKE|OPEN-HEADED ARROW",
   "UPWARDS /ARROW|TWO HEADED ARROW|ARROW FROM BAR|ARROW WITH TIP LEFTWARDS",
   "UPWARDS /ARROW WITH TIP RIGHTWARDS|HARPOON WITH BARB RIGHTWARDS|HARPOON WITH BARB LEFTWARDS",
   "UPWARDS /ARROW LEFTWARDS OF DOWNWARDS ARROW|PAIRED ARROWS|DOUBLE ARROW",
   "UPWARDS /ARROW WITH DOUBLE STROKE|DASHED ARROW|WHITE ARROW|WHITE ARROW FROM BAR",
   "UPWARDS /WHITE ARROW ON PEDESTAL|WHITE ARROW ON PEDESTAL WITH HORIZONTAL BAR",
   "UPWARDS /WHITE ARROW ON PEDESTAL WITH VERTICAL BAR|WHITE DOUBLE ARROW",
   "UPWARDS /WHITE DOUBLE ARROW ON PEDESTAL",
   "RIGHTWARDS /ARROW|ARROW WITH STROKE|WAVE ARROW|TWO HEADED ARROW|ARROW WITH TAIL",
   "RIGHTWARDS /ARROW FROM BAR|ARROW WITH HOOK|ARROW WITH LOOP|ARROW WITH CORNER DOWNWARDS",
   "RIGHTWARDS /HARPOON WITH BARB UPWARDS|HARPOON WITH BARB DOWNWARDS|ARROW OVER LEFTWARDS ARROW",
   "RIGHTWARDS /PAIRED ARROWS|HARPOON OVER LEFTWARDS HARPOON|DOUBLE ARROW WITH STROKE",
   "RIGHTWARDS /DOUBLE ARROW|TRIPLE ARROW|SQUIGGLE ARROW|DASHED ARROW|ARROW TO BAR|WHITE ARROW",
   "RIGHTWARDS /WHITE ARROW FROM WALL|ARROW WITH VERTICAL STROKE",
   "RIGHTWARDS /ARROW WITH DOUBLE VERTICAL STROKE|OPEN-HEADED ARROW",
   "DOWNWARDS /ARROW|TWO HEADED ARROW|ARROW FROM BAR|ZIGZAG ARROW|ARROW WITH TIP LEFTWARDS",
   "DOWNWARDS /ARROW WITH TIP RIGHTWARDS|ARROW WITH CORNER LEFTWARDS",
   "DOWNWARDS /HARPOON WITH BARB RIGHTWARDS|HARPOON WITH BARB LEFTWARDS|PAIRED ARROWS",
   "DOWNWARDS /DOUBLE ARROW|ARROW WITH DOUBLE STROKE|DASHED ARROW|WHITE ARROW",
   "DOWNWARDS /ARROW LEFTWARDS OF UPWARDS ARROW",
   "CLOCKWISE /TOP SEMICIRCLE ARROW|OPEN CIRCLE ARROW|INTEGRAL|CONTOUR INTEGRAL",
   "CLOCKWISE /RIGHTWARDS AND LEFTWARDS OPEN CIRCLE ARROWS",
   "CLOCKWISE /RIGHTWARDS AND LEFTWARDS OPEN CIRCLE ARROWS WITH CIRCLED ONE OVERLAY",
   "CLOCKWISE /DOWNWARDS AND UPWARDS OPEN CIRCLE ARROWS|RIGHT AND LEFT SEMICIRCLE ARROWS",
   "DOES NOT /CONTAIN AS MEMBER|DIVIDE|PRECEDE|SUCCEED|PROVE|FORCE|PRECEDE OR EQUAL",
   "DOES NOT /SUCCEED OR EQUAL|CONTAIN AS NORMAL SUBGROUP|CONTAIN AS NORMAL SUBGROUP OR EQUAL",
   "SQUARE /ROOT|IMAGE OF|ORIGINAL OF|IMAGE OF OR EQUAL TO|ORIGINAL OF OR EQUAL TO|CAP|CUP",
   "SQUARE /IMAGE OF OR NOT EQUAL TO|ORIGINAL OF OR NOT EQUAL TO|WITH HORIZONTAL FILL",
   "SQUARE /WITH VERTICAL FILL|WITH ORTHOGONAL CROSSHATCH FILL",
   "SQUARE /WITH UPPER LEFT TO LOWER RIGHT FILL|WITH UPPER RIGHT TO LOWER LEFT FILL",
   "SQUARE /WITH DIAGONAL CROSSHATCH FILL|WITH LEFT HALF BLACK|WITH RIGHT HALF BLACK",
   "SQUARE /WITH UPPER LEFT DIAGONAL HALF BLACK|WITH LOWER RIGHT DIAGONAL HALF BLACK",
   "SQUARE /FOUR CORNERS",
   "CIRCLED /PLUS|MINUS|TIMES|DIVISION SLASH|DOT OPERATOR|RING OPERATOR|ASTERISK OPERATOR|EQUALS",
   "CIRCLED /DASH|DIGIT ONE|DIGIT TWO|DIGIT THREE|DIGIT FOUR|DIGIT FIVE|DIGIT SIX|DIGIT SEVEN",
   "CIRCLED /DIGIT EIGHT|DIGIT NINE|NUMBER TEN|NUMBER ELEVEN|NUMBER TWELVE|NUMBER THIRTEEN",
   "CIRCLED /NUMBER FOURTEEN|NUMBER FIFTEEN|NUMBER SIXTEEN|NUMBER SEVENTEEN|NUMBER EIGHTEEN",
   "CIRCLED /NUMBER NINETEEN|NUMBER TWENTY|CROSSING LANES|WHITE STAR",
   "CIRCLED /OPEN CENTRE EIGHT POINTED STAR|HEAVY WHITE RIGHTWARDS ARROW|POSTAL MARK",
   "CIRCLED /CROSS POMMEE|INFORMATION SOURCE|CROSS FORMEE WITH FOUR DOTS",
   "CIRCLED /CROSS FORMEE WITH TWO DOTS|CROSS FORMEE",
   "ELEMENT OF WITH /LONG HORIZONTAL STROKE|VERTICAL BAR AT END OF HORIZONTAL STROKE|DOT ABOVE",
   "ELEMENT OF WITH /OVERBAR|UNDERBAR|TWO HORIZONTAL STROKES",
   "PARENTHESIZED /DIGIT ONE|DIGIT TWO|DIGIT THREE|DIGIT FOUR|DIGIT FIVE|DIGIT SIX|DIGIT SEVEN",
   "PARENTHESIZED /DIGIT EIGHT|DIGIT NINE|NUMBER TEN|NUMBER ELEVEN|NUMBER TWELVE|NUMBER THIRTEEN",
   "PARENTHESIZED /NUMBER FOURTEEN|NUMBER FIFTEEN|NUMBER SIXTEEN|NUMBER SEVENTEEN",
   "PARENTHESIZED /NUMBER EIGHTEEN|NUMBER NINETEEN|NUMBER TWENTY",
   "BOX DRAWINGS /LIGHT HORIZONTAL|HEAVY HORIZONTAL|LIGHT VERTICAL|HEAVY VERTICAL",
   "BOX DRAWINGS /LIGHT TRIPLE DASH HORIZONTAL|HEAVY TRIPLE DASH HORIZONTAL",
   "BOX DRAWINGS /LIGHT TRIPLE DASH VERTICAL|HEAVY TRIPLE DASH VERTICAL",
   "BOX DRAWINGS /LIGHT QUADRUPLE DASH HORIZONTAL|HEAVY QUADRUPLE DASH HORIZONTAL",
   "BOX DRAWINGS /LIGHT QUADRUPLE DASH VERTICAL|HEAVY QUADRUPLE DASH VERTICAL",
   "BOX DRAWINGS /LIGHT DOWN AND RIGHT|DOWN LIGHT AND RIGHT HEAVY|DOWN HEAVY AND RIGHT LIGHT",
   "BOX DRAWINGS /HEAVY DOWN AND RIGHT|LIGHT DOWN AND LEFT|DOWN LIGHT AND LEFT HEAVY",
   "BOX DRAWINGS /DOWN HEAVY AND LEFT LIGHT|HEAVY DOWN AND LEFT|LIGHT UP AND RIGHT",
   "BOX DRAWINGS /UP LIGHT AND RIGHT HEAVY|UP HEAVY AND RIGHT LIGHT|HEAVY UP AND RIGHT",
   "BOX DRAWINGS /LIGHT UP AND LEFT|UP LIGHT AND LEFT HEAVY|UP HEAVY AND LEFT LIGHT",
   "BOX DRAWINGS /HEAVY UP AND LEFT|LIGHT VERTICAL AND RIGHT|VERTICAL LIGHT AND RIGHT HEAVY",
   "BOX DRAWINGS /UP HEAVY AND RIGHT DOWN LIGHT|DOWN HEAVY AND RIGHT UP LIGHT",
   "BOX DRAWINGS /VERTICAL HEAVY AND RIGHT LIGHT|DOWN LIGHT AND RIGHT UP HEAVY",
   "BOX DRAWINGS /UP LIGHT AND RIGHT DOWN HEAVY|HEAVY VERTICAL AND RIGHT|LIGHT VERTICAL AND LEFT",
   "BOX DRAWINGS /VERTICAL LIGHT AND LEFT HEAVY|UP HEAVY AND LEFT DOWN LIGHT",
   "BOX DRAWINGS /DOWN HEAVY AND LEFT UP LIGHT|VERTICAL HEAVY AND LEFT LIGHT",
   "BOX DRAWINGS /DOWN LIGHT AND LEFT UP HEAVY|UP LIGHT AND LEFT DOWN HEAVY",
   "BOX DRAWINGS /HEAVY VERTICAL AND LEFT|LIGHT DOWN AND HORIZONTAL",
   "BOX DRAWINGS /LEFT HEAVY AND RIGHT DOWN LIGHT|RIGHT HEAVY AND LEFT DOWN LIGHT",
   "BOX DRAWINGS /DOWN LIGHT AND HORIZONTAL HEAVY|DOWN HEAVY AND HORIZONTAL LIGHT",
   "BOX DRAWINGS /RIGHT LIGHT AND LEFT DOWN HEAVY|LEFT LIGHT AND RIGHT DOWN HEAVY",
   "BOX DRAWINGS /HEAVY DOWN AND HORIZONTAL|LIGHT UP AND HORIZONTAL",
   "BOX DRAWINGS /LEFT HEAVY AND RIGHT UP LIGHT|RIGHT HEAVY AND LEFT UP LIGHT",
   "BOX DRAWINGS /UP LIGHT AND HORIZONTAL HEAVY|UP HEAVY AND HORIZONTAL LIGHT",
   "BOX DRAWINGS /RIGHT LIGHT AND LEFT UP HEAVY|LEFT LIGHT AND RIGHT UP HEAVY",
   "BOX DRAWINGS /HEAVY UP AND HORIZONTAL|LIGHT VERTICAL AND HORIZONTAL",
   "BOX DRAWINGS /LEFT HEAVY AND RIGHT VERTICAL LIGHT|RIGHT HEAVY AND LEFT VERTICAL LIGHT",
   "BOX DRAWINGS /VERTICAL LIGHT AND HORIZONTAL HEAVY|UP HEAVY AND DOWN HORIZONTAL LIGHT",
   "BOX DRAWINGS /DOWN HEAVY AND UP HORIZONTAL LIGHT|VERTICAL HEAVY AND HORIZONTAL LIGHT",
   "BOX DRAWINGS /LEFT UP HEAVY AND RIGHT DOWN LIGHT|RIGHT UP HEAVY AND LEFT DOWN LIGHT",
   "BOX DRAWINGS /LEFT DOWN HEAVY AND RIGHT UP LIGHT|RIGHT DOWN HEAVY AND LEFT UP LIGHT",
   "BOX DRAWINGS /DOWN LIGHT AND UP HORIZONTAL HEAVY|UP LIGHT AND DOWN HORIZONTAL HEAVY",
   "BOX DRAWINGS /RIGHT LIGHT AND LEFT VERTICAL HEAVY|LEFT LIGHT AND RIGHT VERTICAL HEAVY",
   "BOX DRAWINGS /HEAVY VERTICAL AND HORIZONTAL|LIGHT DOUBLE DASH HORIZONTAL",
   "BOX DRAWINGS /HEAVY DOUBLE DASH HORIZONTAL|LIGHT DOUBLE DASH VERTICAL",
   "BOX DRAWINGS /HEAVY DOUBLE DASH VERTICAL|DOUBLE HORIZONTAL|DOUBLE VERTICAL",
   "BOX DRAWINGS /DOWN SINGLE AND RIGHT DOUBLE|DOWN DOUBLE AND RIGHT SINGLE",
   "BOX DRAWINGS /DOUBLE DOWN AND RIGHT|DOWN SINGLE AND LEFT DOUBLE|DOWN DOUBLE AND LEFT SINGLE",
   "BOX DRAWINGS /DOUBLE DOWN AND LEFT|UP SINGLE AND RIGHT DOUBLE|UP DOUBLE AND RIGHT SINGLE",
   "BOX DRAWINGS /DOUBLE UP AND RIGHT|UP SINGLE AND LEFT DOUBLE|UP DOUBLE AND LEFT SINGLE",
   "BOX DRAWINGS /DOUBLE UP AND LEFT|VERTICAL SINGLE AND RIGHT DOUBLE",
   "BOX DRAWINGS /VERTICAL DOUBLE AND RIGHT SINGLE|DOUBLE VERTICAL AND RIGHT",
   "BOX DRAWINGS /VERTICAL SINGLE AND LEFT DOUBLE|VERTICAL DOUBLE AND LEFT SINGLE",
   "BOX DRAWINGS /DOUBLE VERTICAL AND LEFT|DOWN SINGLE AND HORIZONTAL DOUBLE",
   "BOX DRAWINGS /DOWN DOUBLE AND HORIZONTAL SINGLE|DOUBLE DOWN AND HORIZONTAL",
   "BOX DRAWINGS /UP SINGLE AND HORIZONTAL DOUBLE|UP DOUBLE AND HORIZONTAL SINGLE",
   "BOX DRAWINGS /DOUBLE UP AND HORIZONTAL|VERTICAL SINGLE AND HORIZONTAL DOUBLE",
   "BOX DRAWINGS /VERTICAL DOUBLE AND HORIZONTAL SINGLE|DOUBLE VERTICAL AND HORIZONTAL",
   "BOX DRAWINGS /LIGHT ARC DOWN AND RIGHT|LIGHT ARC DOWN AND LEFT|LIGHT ARC UP AND LEFT",
   "BOX DRAWINGS /LIGHT ARC UP AND RIGHT|LIGHT DIAGONAL UPPER RIGHT TO LOWER LEFT",
   "BOX DRAWINGS /LIGHT DIAGONAL UPPER LEFT TO LOWER RIGHT|LIGHT DIAGONAL CROSS|LIGHT LEFT",
   "BOX DRAWINGS /LIGHT UP|LIGHT RIGHT|LIGHT DOWN|HEAVY LEFT|HEAVY UP|HEAVY RIGHT|HEAVY DOWN",
   "BOX DRAWINGS /LIGHT LEFT AND HEAVY RIGHT|LIGHT UP AND HEAVY DOWN|HEAVY LEFT AND LIGHT RIGHT",
   "BOX DRAWINGS /HEAVY UP AND LIGHT DOWN",
   "UPPER /HALF BLOCK|ONE EIGHTH BLOCK|HALF INVERSE WHITE CIRCLE|LEFT QUADRANT CIRCULAR ARC",
   "UPPER /RIGHT QUADRANT CIRCULAR ARC|HALF CIRCLE|LEFT TRIANGLE|RIGHT TRIANGLE|BLADE SCISSORS",
   "UPPER /RIGHT PENCIL|RIGHT DROP-SHADOWED WHITE SQUARE|RIGHT SHADOWED WHITE SQUARE",
   "UPPER /RIGHT SHADOWED WHITE CIRCLE",
   "LOWER /ONE EIGHTH BLOCK|ONE QUARTER BLOCK|THREE EIGHTHS BLOCK|HALF BLOCK|FIVE EIGHTHS BLOCK",
   "LOWER /THREE QUARTERS BLOCK|SEVEN EIGHTHS BLOCK|HALF INVERSE WHITE CIRCLE",
   "LOWER /RIGHT QUADRANT CIRCULAR ARC|LEFT QUADRANT CIRCULAR ARC|HALF CIRCLE|LEFT TRIANGLE",
   "LOWER /RIGHT TRIANGLE|BLADE SCISSORS|RIGHT PENCIL|RIGHT DROP-SHADOWED WHITE SQUARE",
   "LOWER /RIGHT SHADOWED WHITE SQUARE|RIGHT SHADOWED WHITE CIRCLE|LEFT PENCIL",
   "LOWER /LEFT BALLPOINT PEN|LEFT FOUNTAIN PEN|LEFT PAINTBRUSH|LEFT CRAYON",
   "QUADRANT UPPER /LEFT|LEFT AND LOWER LEFT AND LOWER RIGHT|LEFT AND LOWER RIGHT",
   "QUADRANT UPPER /LEFT AND UPPER RIGHT AND LOWER LEFT|LEFT AND UPPER RIGHT AND LOWER RIGHT",
   "QUADRANT UPPER /RIGHT|RIGHT AND LOWER LEFT|RIGHT AND LOWER LEFT AND LOWER RIGHT",
   "WHITE /SQUARE|SQUARE WITH ROUNDED CORNERS|SQUARE CONTAINING BLACK SMALL SQUARE|SMALL SQUARE",
   "WHITE /RECTANGLE|VERTICAL RECTANGLE|PARALLELOGRAM|UP-POINTING TRIANGLE",
   "WHITE /UP-POINTING SMALL TRIANGLE|RIGHT-POINTING TRIANGLE|RIGHT-POINTING SMALL TRIANGLE",
   "WHITE /RIGHT-POINTING POINTER|DOWN-POINTING TRIANGLE|DOWN-POINTING SMALL TRIANGLE",
   "WHITE /LEFT-POINTING TRIANGLE|LEFT-POINTING SMALL TRIANGLE|LEFT-POINTING POINTER|DIAMOND",
   "WHITE /DIAMOND CONTAINING BLACK SMALL DIAMOND|CIRCLE|BULLET",
   "WHITE /SQUARE WITH VERTICAL BISECTING LINE|UP-POINTING TRIANGLE WITH DOT",
   "WHITE /SQUARE WITH UPPER LEFT QUADRANT|SQUARE WITH LOWER LEFT QUADRANT",
   "WHITE /SQUARE WITH LOWER RIGHT QUADRANT|SQUARE WITH UPPER RIGHT QUADRANT",
   "WHITE /CIRCLE WITH UPPER LEFT QUADRANT|CIRCLE WITH LOWER LEFT QUADRANT",
   "WHITE /CIRCLE WITH LOWER RIGHT QUADRANT|CIRCLE WITH UPPER RIGHT QUADRANT|MEDIUM SQUARE",
   "WHITE /MEDIUM SMALL SQUARE|STAR|TELEPHONE|SHOGI PIECE|LEFT POINTING INDEX|UP POINTING INDEX",
   "WHITE /RIGHT POINTING INDEX|DOWN POINTING INDEX|FROWNING FACE|SMILING FACE|SUN WITH RAYS",
   "WHITE /CHESS KING|CHESS QUEEN|CHESS ROOK|CHESS BISHOP|CHESS KNIGHT|CHESS PAWN|HEART SUIT",
   "WHITE /DIAMOND SUIT|SPADE SUIT|CLUB SUIT|CIRCLE WITH DOT RIGHT|CIRCLE WITH TWO DOTS|FLAG",
   "WHITE /DRAUGHTS MAN|DRAUGHTS KING|DIAMOND IN SQUARE|TWO-WAY LEFT WAY TRAFFIC|LEFT LANE MERGE",
   "WHITE /FLAG WITH HORIZONTAL MIDDLE BLACK STRIPE|SCISSORS|HEAVY CHECK MARK|NIB",
   "WHITE /FOUR POINTED STAR|FLORETTE|QUESTION MARK ORNAMENT|EXCLAMATION MARK ORNAMENT|SUN",
   "WHITE /SUN WITH SMALL CLOUD|SUN BEHIND CLOUD|SUN BEHIND CLOUD WITH RAIN|PENNANT",
   "WHITE /UP POINTING BACKHAND INDEX|DOWN POINTING BACKHAND INDEX|LEFT POINTING BACKHAND INDEX",
   "WHITE /RIGHT POINTING BACKHAND INDEX|FLOWER|SQUARE BUTTON|LATIN CROSS|TOUCHTONE TELEPHONE",
   "WHITE /DOWN POINTING LEFT HAND INDEX|HARD SHELL FLOPPY DISK|HEART",
   "CIRCLE WITH /VERTICAL FILL|LEFT HALF BLACK|RIGHT HALF BLACK|LOWER HALF BLACK",
   "CIRCLE WITH /UPPER HALF BLACK|UPPER RIGHT QUADRANT BLACK|ALL BUT UPPER LEFT QUADRANT BLACK",
   "UP-POINTING /TRIANGLE WITH LEFT HALF BLACK|TRIANGLE WITH RIGHT HALF BLACK|RED TRIANGLE",
   "UP-POINTING /SMALL RED TRIANGLE|MILITARY AIRPLANE|AIRPLANE|SMALL AIRPLANE",
   "BALLOT BOX WITH /CHECK|X|BALLOT|SCRIPT X|BOLD SCRIPT X|BOLD CHECK",
   "TRIGRAM FOR /HEAVEN|LAKE|FIRE|THUNDER|WIND|WATER|MOUNTAIN|EARTH",
   "RECYCLING SYMBOL FOR /TYPE-1 PLASTICS|TYPE-2 PLASTICS|TYPE-3 PLASTICS|TYPE-4 PLASTICS",
   "RECYCLING SYMBOL FOR /TYPE-5 PLASTICS|TYPE-6 PLASTICS|TYPE-7 PLASTICS|GENERIC MATERIALS",
   "HEAVY /WHITE DOWN-POINTING TRIANGLE|CIRCLE WITH STROKE AND TWO DOTS ABOVE|CHECK MARK",
   "HEAVY /MULTIPLICATION X|BALLOT X|GREEK CROSS|OPEN CENTRE CROSS|FOUR BALLOON-SPOKED ASTERISK",
   "HEAVY /OUTLINED BLACK STAR|ASTERISK|EIGHT POINTED RECTILINEAR BLACK STAR",
   "HEAVY /TEARDROP-SPOKED ASTERISK|TEARDROP-SPOKED PINWHEEL ASTERISK|CHEVRON SNOWFLAKE|SPARKLE",
   "HEAVY /EIGHT TEARDROP-SPOKED PROPELLER ASTERISK|EXCLAMATION MARK SYMBOL|VERTICAL BAR",
   "HEAVY /SINGLE TURNED COMMA QUOTATION MARK ORNAMENT|SINGLE COMMA QUOTATION MARK ORNAMENT",
   "HEAVY /DOUBLE TURNED COMMA QUOTATION MARK ORNAMENT|DOUBLE COMMA QUOTATION MARK ORNAMENT",
   "HEAVY /LOW SINGLE COMMA QUOTATION MARK ORNAMENT|LOW DOUBLE COMMA QUOTATION MARK ORNAMENT",
   "HEAVY /EXCLAMATION MARK ORNAMENT|HEART EXCLAMATION MARK ORNAMENT|BLACK HEART",
   "HEAVY /LEFT-POINTING ANGLE QUOTATION MARK ORNAMENT",
   "HEAVY /RIGHT-POINTING ANGLE QUOTATION MARK ORNAMENT|LEFT-POINTING ANGLE BRACKET ORNAMENT",
   "HEAVY /RIGHT-POINTING ANGLE BRACKET ORNAMENT|WIDE-HEADED RIGHTWARDS ARROW|PLUS SIGN",
   "HEAVY /MINUS SIGN|DIVISION SIGN|SOUTH EAST ARROW|RIGHTWARDS ARROW|NORTH EAST ARROW",
   "HEAVY /ROUND-TIPPED RIGHTWARDS ARROW|TRIANGLE-HEADED RIGHTWARDS ARROW",
   "HEAVY /DASHED TRIANGLE-HEADED RIGHTWARDS ARROW|BLACK CURVED DOWNWARDS AND RIGHTWARDS ARROW",
   "HEAVY /BLACK CURVED UPWARDS AND RIGHTWARDS ARROW|CONCAVE-POINTED BLACK RIGHTWARDS ARROW",
   "HEAVY /LOWER RIGHT-SHADOWED WHITE RIGHTWARDS ARROW",
   "HEAVY /UPPER RIGHT-SHADOWED WHITE RIGHTWARDS ARROW|BLACK-FEATHERED SOUTH EAST ARROW",
   "HEAVY /BLACK-FEATHERED RIGHTWARDS ARROW|BLACK-FEATHERED NORTH EAST ARROW",
   "HEAVY /TEARDROP-SHANKED RIGHTWARDS ARROW|WEDGE-TAILED RIGHTWARDS ARROW|DOLLAR SIGN",
   "HEAVY /LATIN CROSS",
   "PERSON /WITH BALL|WITH BLOND HAIR|BOWING DEEPLY|RAISING BOTH HANDS IN CELEBRATION|FROWNING",
   "PERSON /WITH POUTING FACE|WITH FOLDED HANDS|DOING CARTWHEEL|WITH HEADSCARF|IN STEAMY ROOM",
   "PERSON /CLIMBING|IN LOTUS POSITION",
   "DINGBAT NEGATIVE CIRCLED /DIGIT ONE|DIGIT TWO|DIGIT THREE|DIGIT FOUR|DIGIT FIVE|DIGIT SIX",
   "DINGBAT NEGATIVE CIRCLED /DIGIT SEVEN|DIGIT EIGHT|DIGIT NINE|NUMBER TEN|SANS-SERIF DIGIT ONE",
   "DINGBAT NEGATIVE CIRCLED /SANS-SERIF DIGIT TWO|SANS-SERIF DIGIT THREE|SANS-SERIF DIGIT FOUR",
   "DINGBAT NEGATIVE CIRCLED /SANS-SERIF DIGIT FIVE|SANS-SERIF DIGIT SIX|SANS-SERIF DIGIT SEVEN",
   "DINGBAT NEGATIVE CIRCLED /SANS-SERIF DIGIT EIGHT|SANS-SERIF DIGIT NINE|SANS-SERIF NUMBER TEN",
   "DINGBAT CIRCLED SANS-SERIF DIGIT /ONE|TWO|THREE|FOUR|FIVE|SIX|SEVEN|EIGHT|NINE",
   "IDEOGRAPHIC /SPACE|COMMA|FULL STOP|ITERATION MARK|CLOSING MARK|NUMBER ZERO|LEVEL TONE MARK",
   "IDEOGRAPHIC /RISING TONE MARK|DEPARTING TONE MARK|ENTERING TONE MARK",
   "IDEOGRAPHIC /TELEGRAPH LINE FEED SEPARATOR SYMBOL|VARIATION INDICATOR|HALF FILL SPACE",
   "HANGZHOU NUMERAL /ONE|TWO|THREE|FOUR|FIVE|SIX|SEVEN|EIGHT|NINE|TEN|TWENTY|THIRTY",
   "HIRAGANA LETTER /SMALL A|A|SMALL I|I|SMALL U|U|SMALL E|E|SMALL O|O|KA|GA|KI|GI|KU|GU|KE|GE",
   "HIRAGANA LETTER /KO|GO|SA|ZA|SI|ZI|SU|ZU|SE|ZE|SO|ZO|TA|DA|TI|DI|SMALL TU|TU|DU|TE|DE|TO|DO",
   "HIRAGANA LETTER /NA|NI|NU|NE|NO|HA|BA|PA|HI|BI|PI|HU|BU|PU|HE|BE|PE|HO|BO|PO|MA|MI|MU|ME|MO",
   "HIRAGANA LETTER /SMALL YA|YA|SMALL YU|YU|SMALL YO|YO|RA|RI|RU|RE|RO|SMALL WA|WA|WI|WE|WO|N",
   "HIRAGANA LETTER /VU|SMALL KA|SMALL KE",
   "KATAKANA LETTER /SMALL A|A|SMALL I|I|SMALL U|U|SMALL E|E|SMALL O|O|KA|GA|KI|GI|KU|GU|KE|GE",
   "KATAKANA LETTER /KO|GO|SA|ZA|SI|ZI|SU|ZU|SE|ZE|SO|ZO|TA|DA|TI|DI|SMALL TU|TU|DU|TE|DE|TO|DO",
   "KATAKANA LETTER /NA|NI|NU|NE|NO|HA|BA|PA|HI|BI|PI|HU|BU|PU|HE|BE|PE|HO|BO|PO|MA|MI|MU|ME|MO",
   "KATAKANA LETTER /SMALL YA|YA|SMALL YU|YU|SMALL YO|YO|RA|RI|RU|RE|RO|SMALL WA|WA|WI|WE|WO|N",
   "KATAKANA LETTER /VU|SMALL KA|SMALL KE|VA|VI|VE|VO",
   "VARIATION /SELECTOR-1|SELECTOR-2|SELECTOR-3|SELECTOR-4|SELECTOR-5|SELECTOR-6|SELECTOR-7",
   "VARIATION /SELECTOR-8|SELECTOR-9|SELECTOR-10|SELECTOR-11|SELECTOR-12|SELECTOR-13|SELECTOR-14",
   "VARIATION /SELECTOR-15|SELECTOR-16",
   "EMOJI MODIFIER FITZPATRICK /TYPE-1-2|TYPE-3|TYPE-4|TYPE-5|TYPE-6",
   "INPUT SYMBOL FOR /LATIN CAPITAL LETTERS|LATIN SMALL LETTERS|NUMBERS|SYMBOLS|LATIN LETTERS",
   "CLOCK FACE /ONE OCLOCK|TWO OCLOCK|THREE OCLOCK|FOUR OCLOCK|FIVE OCLOCK|SIX OCLOCK",
   "CLOCK FACE /SEVEN OCLOCK|EIGHT OCLOCK|NINE OCLOCK|TEN OCLOCK|ELEVEN OCLOCK|TWELVE OCLOCK",
   "CLOCK FACE /ONE-THIRTY|TWO-THIRTY|THREE-THIRTY|FOUR-THIRTY|FIVE-THIRTY|SIX-THIRTY",
   "CLOCK FACE /SEVEN-THIRTY|EIGHT-THIRTY|NINE-THIRTY|TEN-THIRTY|ELEVEN-THIRTY|TWELVE-THIRTY",
   "FACE WITH /TEARS OF JOY|COLD SWEAT|STUCK-OUT TONGUE|STUCK-OUT TONGUE AND WINKING EYE",
   "FACE WITH /STUCK-OUT TONGUE AND TIGHTLY-CLOSED EYES|LOOK OF TRIUMPH|OPEN MOUTH",
   "FACE WITH /OPEN MOUTH AND COLD SWEAT|MEDICAL MASK|ROLLING EYES|NO GOOD GESTURE|OK GESTURE",
   "FACE WITH /THERMOMETER|HEAD-BANDAGE|COWBOY HAT|ONE EYEBROW RAISED",
   "FACE WITH /FINGER COVERING CLOSED LIPS|OPEN MOUTH VOMITING|PARTY HORN AND PARTY HAT",
   "FACE WITH /UNEVEN EYES AND WAVY MOUTH|PLEADING EYES|MONOCLE",
   "SMILING FACE WITH /OPEN MOUTH|OPEN MOUTH AND SMILING EYES|OPEN MOUTH AND COLD SWEAT",
   "SMILING FACE WITH /OPEN MOUTH AND TIGHTLY-CLOSED EYES|HALO|HORNS|SMILING EYES",
   "SMILING FACE WITH /HEART-SHAPED EYES|SUNGLASSES|SMILING EYES AND HAND COVERING MOUTH",
   "SMILING FACE WITH /SMILING EYES AND THREE HEARTS|TEAR",
   "/NULL|NUL|START OF HEADING|SOH|START OF TEXT|STX|END OF TEXT|ETX|END OF TRANSMISSION|EOT",
   "/ENQUIRY|ENQ|ACKNOWLEDGE|ACK|ALERT|BEL|BACKSPACE|BS|CHARACTER TABULATION",
   "/HORIZONTAL TABULATION|HT|TAB|LINE FEED|NEW LINE|END OF LINE|LF|NL|EOL|LINE TABULATION|VT",
   "/FORM FEED|FF|CARRIAGE RETURN|CR|SHIFT OUT|LOCKING-SHIFT ONE|SO|SHIFT IN|LOCKING-SHIFT ZERO",
   "/SI|DATA LINK ESCAPE|DLE|DEVICE CONTROL ONE|DC1|DEVICE CONTROL TWO|DC2|DEVICE CONTROL THREE",
   "/DC3|DEVICE CONTROL FOUR|DC4|NEGATIVE ACKNOWLEDGE|NAK|SYNCHRONOUS IDLE|SYN",
   "/END OF TRANSMISSION BLOCK|ETB|CANCEL|CAN|END OF MEDIUM|EOM|SUBSTITUTE|SUB|ESCAPE|ESC",
   "/INFORMATION SEPARATOR FOUR|FILE SEPARATOR|FS|INFORMATION SEPARATOR THREE|GROUP SEPARATOR|GS",
   "/INFORMATION SEPARATOR TWO|RECORD SEPARATOR|RS|INFORMATION SEPARATOR ONE|UNIT SEPARATOR|US",
   "/SP|DELETE|DEL|NEXT LINE|NEL|NBSP|SHY|ZWSP|ZWNJ|ZWJ|LRM|RLM|WJ|BOM|ZWNBSP|BYTE ORDER MARK",
   "/SPACE|EXCLAMATION MARK|QUOTATION MARK|DOLLAR SIGN|PERCENT SIGN|AMPERSAND|APOSTROPHE",
   "/ASTERISK|PLUS SIGN|COMMA|HYPHEN-MINUS|FULL STOP|SOLIDUS|COLON|SEMICOLON|EQUALS SIGN",
   "/QUESTION MARK|COMMERCIAL AT|REVERSE SOLIDUS|CIRCUMFLEX ACCENT|LOW LINE|GRAVE ACCENT|TILDE",
   "/NO-BREAK SPACE|INVERTED EXCLAMATION MARK|CENT SIGN|POUND SIGN|CURRENCY SIGN|YEN SIGN",
   "/BROKEN BAR|SECTION SIGN|DIAERESIS|COPYRIGHT SIGN|FEMININE ORDINAL INDICATOR",
   "/LEFT-POINTING DOUBLE ANGLE QUOTATION MARK|SOFT HYPHEN|REGISTERED SIGN|MACRON|DEGREE SIGN",
   "/PLUS-MINUS SIGN|SUPERSCRIPT TWO|SUPERSCRIPT THREE|ACUTE ACCENT|MICRO SIGN|PILCROW SIGN",
   "/MIDDLE DOT|CEDILLA|SUPERSCRIPT ONE|MASCULINE ORDINAL INDICATOR",
   "/RIGHT-POINTING DOUBLE ANGLE QUOTATION MARK|INVERTED QUESTION MARK|MULTIPLICATION SIGN",
   "/DIVISION SIGN|LATIN CAPITAL LIGATURE IJ|LATIN SMALL LIGATURE IJ|LATIN CAPITAL LIGATURE OE",
   "/LATIN SMALL LIGATURE OE|EN QUAD|EM QUAD|EN SPACE|EM SPACE|THREE-PER-EM SPACE",
   "/FOUR-PER-EM SPACE|SIX-PER-EM SPACE|FIGURE SPACE|PUNCTUATION SPACE|THIN SPACE|HAIR SPACE",
   "/ZERO WIDTH SPACE|ZERO WIDTH NON-JOINER|ZERO WIDTH JOINER|LEFT-TO-RIGHT MARK",
   "/RIGHT-TO-LEFT MARK|HYPHEN|NON-BREAKING HYPHEN|FIGURE DASH|EN DASH|EM DASH|HORIZONTAL BAR",
   "/SINGLE LOW-9 QUOTATION MARK|SINGLE HIGH-REVERSED-9 QUOTATION MARK|DAGGER|BULLET",
   "/TRIANGULAR BULLET|ONE DOT LEADER|TWO DOT LEADER|HORIZONTAL ELLIPSIS|HYPHENATION POINT",
   "/LINE SEPARATOR|PARAGRAPH SEPARATOR|LEFT-TO-RIGHT EMBEDDING|RIGHT-TO-LEFT EMBEDDING",
   "/POP DIRECTIONAL FORMATTING|LEFT-TO-RIGHT OVERRIDE|RIGHT-TO-LEFT OVERRIDE",
   "/NARROW NO-BREAK SPACE|PER MILLE SIGN|PER TEN THOUSAND SIGN|PRIME|TRIPLE PRIME|CARET",
   "/SINGLE LEFT-POINTING ANGLE QUOTATION MARK|SINGLE RIGHT-POINTING ANGLE QUOTATION MARK",
   "/REFERENCE MARK|INTERROBANG|OVERLINE|UNDERTIE|CHARACTER TIE|CARET INSERTION POINT|ASTERISM",
   "/HYPHEN BULLET|FRACTION SLASH|QUESTION EXCLAMATION MARK|EXCLAMATION QUESTION MARK",
   "/TIRONIAN SIGN ET|LOW ASTERISK|CLOSE UP|TWO ASTERISKS ALIGNED VERTICALLY",
   "/COMMERCIAL MINUS SIGN|SWUNG DASH|INVERTED UNDERTIE|FLOWER PUNCTUATION MARK",
   "/THREE DOT PUNCTUATION|QUADRUPLE PRIME|FOUR DOT PUNCTUATION|FIVE DOT PUNCTUATION",
   "/TWO DOT PUNCTUATION|FOUR DOT MARK|DOTTED CROSS|TRICOLON|WORD JOINER|FUNCTION APPLICATION",
   "/INVISIBLE TIMES|INVISIBLE SEPARATOR|INVISIBLE PLUS|LEFT-TO-RIGHT ISOLATE",
   "/RIGHT-TO-LEFT ISOLATE|FIRST STRONG ISOLATE|POP DIRECTIONAL ISOLATE",
   "/INHIBIT SYMMETRIC SWAPPING|ACTIVATE SYMMETRIC SWAPPING|INHIBIT ARABIC FORM SHAPING",
   "/ACTIVATE ARABIC FORM SHAPING|NATIONAL DIGIT SHAPES|NOMINAL DIGIT SHAPES|EURO-CURRENCY SIGN",
   "/COLON SIGN|CRUZEIRO SIGN|FRENCH FRANC SIGN|LIRA SIGN|MILL SIGN|NAIRA SIGN|PESETA SIGN",
   "/RUPEE SIGN|WON SIGN|NEW SHEQEL SIGN|DONG SIGN|EURO SIGN|KIP SIGN|TUGRIK SIGN|DRACHMA SIGN",
   "/GERMAN PENNY SIGN|PESO SIGN|GUARANI SIGN|AUSTRAL SIGN|HRYVNIA SIGN|CEDI SIGN",
   "/LIVRE TOURNOIS SIGN|SPESMILO SIGN|TENGE SIGN|INDIAN RUPEE SIGN|TURKISH LIRA SIGN",
   "/NORDIC MARK SIGN|MANAT SIGN|RUBLE SIGN|LARI SIGN|BITCOIN SIGN|SOM SIGN|ACCOUNT OF",
   "/ADDRESSED TO THE SUBJECT|DEGREE CELSIUS|CENTRE LINE SYMBOL|CARE OF|CADA UNA|EULER CONSTANT",
   "/SCRUPLE|DEGREE FAHRENHEIT|SCRIPT SMALL G|PLANCK CONSTANT|PLANCK CONSTANT OVER TWO PI",
   "/SCRIPT SMALL L|L B BAR SYMBOL|NUMERO SIGN|SOUND RECORDING COPYRIGHT|PRESCRIPTION TAKE",
   "/RESPONSE|SERVICE MARK|TELEPHONE SIGN|TRADE MARK SIGN|VERSICLE|OUNCE SIGN|OHM SIGN",
   "/INVERTED OHM SIGN|KELVIN SIGN|ANGSTROM SIGN|ESTIMATED SYMBOL|SCRIPT SMALL E|SCRIPT SMALL O",
   "/ALEF SYMBOL|BET SYMBOL|GIMEL SYMBOL|DALET SYMBOL|INFORMATION SOURCE|ROTATED CAPITAL Q",
   "/FACSIMILE SIGN|PROPERTY LINE|PER SIGN|AKTIESELSKAB|SYMBOL FOR SAMARITAN SOURCE",
   "/FRACTION NUMERATOR ONE|UP DOWN ARROW|NORTH WEST ARROW|NORTH EAST ARROW|SOUTH EAST ARROW",
   "/SOUTH WEST ARROW|UP DOWN ARROW WITH BASE|ANTICLOCKWISE TOP SEMICIRCLE ARROW",
   "/NORTH WEST ARROW TO LONG BAR|ANTICLOCKWISE OPEN CIRCLE ARROW|UP DOWN DOUBLE ARROW",
   "/NORTH WEST DOUBLE ARROW|NORTH EAST DOUBLE ARROW|SOUTH EAST DOUBLE ARROW",
   "/SOUTH WEST DOUBLE ARROW|NORTH WEST ARROW TO CORNER|SOUTH EAST ARROW TO CORNER",
   "/UP DOWN WHITE ARROW|THREE RIGHTWARDS ARROWS|FOR ALL|COMPLEMENT|PARTIAL DIFFERENTIAL",
   "/THERE EXISTS|THERE DOES NOT EXIST|EMPTY SET|INCREMENT|NABLA|ELEMENT OF|SMALL ELEMENT OF",
   "/CONTAINS AS MEMBER|SMALL CONTAINS AS MEMBER|END OF PROOF|N-ARY PRODUCT|N-ARY COPRODUCT",
   "/N-ARY SUMMATION|MINUS SIGN|MINUS-OR-PLUS SIGN|DOT PLUS|DIVISION SLASH|SET MINUS",
   "/ASTERISK OPERATOR|RING OPERATOR|BULLET OPERATOR|CUBE ROOT|FOURTH ROOT|PROPORTIONAL TO",
   "/INFINITY|ANGLE|MEASURED ANGLE|SPHERICAL ANGLE|DIVIDES|PARALLEL TO|LOGICAL AND|LOGICAL OR",
   "/INTERSECTION|UNION|INTEGRAL|TRIPLE INTEGRAL|CONTOUR INTEGRAL|SURFACE INTEGRAL",
   "/VOLUME INTEGRAL|ANTICLOCKWISE CONTOUR INTEGRAL|THEREFORE|BECAUSE|RATIO|PROPORTION|DOT MINUS",
   "/EXCESS|GEOMETRIC PROPORTION|HOMOTHETIC|TILDE OPERATOR|INVERTED LAZY S|SINE WAVE",
   "/WREATH PRODUCT|MINUS TILDE|ASYMPTOTICALLY EQUAL TO|APPROXIMATELY EQUAL TO",
   "/APPROXIMATELY BUT NOT ACTUALLY EQUAL TO|NEITHER APPROXIMATELY NOR ACTUALLY EQUAL TO",
   "/ALMOST EQUAL TO|ALMOST EQUAL OR EQUAL TO|TRIPLE TILDE|ALL EQUAL TO|EQUIVALENT TO",
   "/GEOMETRICALLY EQUIVALENT TO|DIFFERENCE BETWEEN|APPROACHES THE LIMIT|GEOMETRICALLY EQUAL TO",
   "/APPROXIMATELY EQUAL TO OR THE IMAGE OF|IMAGE OF OR APPROXIMATELY EQUAL TO|COLON EQUALS",
   "/EQUALS COLON|RING IN EQUAL TO|RING EQUAL TO|CORRESPONDS TO|ESTIMATES|EQUIANGULAR TO",
   "/STAR EQUALS|DELTA EQUAL TO|EQUAL TO BY DEFINITION|MEASURED BY|QUESTIONED EQUAL TO",
   "/IDENTICAL TO|STRICTLY EQUIVALENT TO|MUCH LESS-THAN|MUCH GREATER-THAN|BETWEEN",
   "/NEITHER LESS-THAN NOR EQUAL TO|NEITHER GREATER-THAN NOR EQUAL TO",
   "/NEITHER LESS-THAN NOR EQUIVALENT TO|NEITHER GREATER-THAN NOR EQUIVALENT TO",
   "/NEITHER LESS-THAN NOR GREATER-THAN|NEITHER GREATER-THAN NOR LESS-THAN|PRECEDES|SUCCEEDS",
   "/PRECEDES OR EQUAL TO|SUCCEEDS OR EQUAL TO|PRECEDES OR EQUIVALENT TO",
   "/SUCCEEDS OR EQUIVALENT TO|SUBSET OF|SUPERSET OF|SUBSET OF OR EQUAL TO",
   "/SUPERSET OF OR EQUAL TO|NEITHER A SUBSET OF NOR EQUAL TO|NEITHER A SUPERSET OF NOR EQUAL TO",
   "/SUBSET OF WITH NOT EQUAL TO|SUPERSET OF WITH NOT EQUAL TO|MULTISET|MULTISET MULTIPLICATION",
   "/MULTISET UNION|SQUARED PLUS|SQUARED MINUS|SQUARED TIMES|SQUARED DOT OPERATOR|DOWN TACK",
   "/UP TACK|ASSERTION|MODELS|TRUE|FORCES|TRIPLE VERTICAL BAR RIGHT TURNSTILE",
   "/NEGATED DOUBLE VERTICAL BAR DOUBLE RIGHT TURNSTILE|PRECEDES UNDER RELATION",
   "/SUCCEEDS UNDER RELATION|NORMAL SUBGROUP OF|CONTAINS AS NORMAL SUBGROUP",
   "/NORMAL SUBGROUP OF OR EQUAL TO|CONTAINS AS NORMAL SUBGROUP OR EQUAL TO|ORIGINAL OF|IMAGE OF",
   "/MULTIMAP|HERMITIAN CONJUGATE MATRIX|INTERCALATE|XOR|NAND|NOR|N-ARY LOGICAL AND",
   "/N-ARY LOGICAL OR|N-ARY INTERSECTION|N-ARY UNION|DIAMOND OPERATOR|DOT OPERATOR|STAR OPERATOR",
   "/DIVISION TIMES|BOWTIE|CURLY LOGICAL OR|CURLY LOGICAL AND|PITCHFORK|EQUAL AND PARALLEL TO",
   "/VERY MUCH LESS-THAN|VERY MUCH GREATER-THAN|EQUAL TO OR LESS-THAN|EQUAL TO OR GREATER-THAN",
   "/EQUAL TO OR PRECEDES|EQUAL TO OR SUCCEEDS|PRECEDES BUT NOT EQUIVALENT TO",
   "/SUCCEEDS BUT NOT EQUIVALENT TO|MIDLINE HORIZONTAL ELLIPSIS|UP RIGHT DIAGONAL ELLIPSIS",
   "/DOWN RIGHT DIAGONAL ELLIPSIS|SMALL ELEMENT OF WITH VERTICAL BAR AT END OF HORIZONTAL STROKE",
   "/SMALL ELEMENT OF WITH OVERBAR|CONTAINS WITH LONG HORIZONTAL STROKE",
   "/CONTAINS WITH VERTICAL BAR AT END OF HORIZONTAL STROKE",
   "/SMALL CONTAINS WITH VERTICAL BAR AT END OF HORIZONTAL STROKE|CONTAINS WITH OVERBAR",
   "/SMALL CONTAINS WITH OVERBAR|Z NOTATION BAG MEMBERSHIP|FULL BLOCK|LIGHT SHADE|DARK SHADE",
   "/QUADRANT LOWER LEFT|QUADRANT LOWER RIGHT|FISHEYE|LOZENGE|DOTTED CIRCLE|BULLSEYE",
   "/INVERSE BULLET|INVERSE WHITE CIRCLE|LARGE CIRCLE|CLOUD|UMBRELLA|SNOWMAN|COMET|LIGHTNING",
   "/THUNDERSTORM|SUN|ASCENDING NODE|DESCENDING NODE|CONJUNCTION|OPPOSITION|BALLOT BOX|SALTIRE",
   "/UMBRELLA WITH RAIN DROPS|HOT BEVERAGE|SHAMROCK|SKULL AND CROSSBONES|CAUTION SIGN",
   "/RADIOACTIVE SIGN|BIOHAZARD SIGN|CADUCEUS|ANKH|ORTHODOX CROSS|CHI RHO|CROSS OF LORRAINE",
   "/CROSS OF JERUSALEM|STAR AND CRESCENT|FARSI SYMBOL|ADI SHAKTI|HAMMER AND SICKLE|PEACE SYMBOL",
   "/YIN YANG|WHEEL OF DHARMA|FIRST QUARTER MOON|LAST QUARTER MOON|MERCURY|FEMALE SIGN|EARTH",
   "/MALE SIGN|JUPITER|SATURN|URANUS|NEPTUNE|PLUTO|ARIES|TAURUS|GEMINI|CANCER|LEO|VIRGO|LIBRA",
   "/SCORPIUS|SAGITTARIUS|CAPRICORN|AQUARIUS|PISCES|HOT SPRINGS|QUARTER NOTE|EIGHTH NOTE",
   "/BEAMED EIGHTH NOTES|BEAMED SIXTEENTH NOTES|MUSIC FLAT SIGN|MUSIC NATURAL SIGN",
   "/MUSIC SHARP SIGN|WEST SYRIAC CROSS|EAST SYRIAC CROSS|UNIVERSAL RECYCLING SYMBOL",
   "/RECYCLED PAPER SYMBOL|PARTIALLY-RECYCLED PAPER SYMBOL|PERMANENT PAPER SIGN",
   "/WHEELCHAIR SYMBOL|DIE FACE-1|DIE FACE-2|DIE FACE-3|DIE FACE-4|DIE FACE-5|DIE FACE-6",
   "/MONOGRAM FOR YANG|MONOGRAM FOR YIN|DIGRAM FOR GREATER YANG|DIGRAM FOR LESSER YIN",
   "/DIGRAM FOR LESSER YANG|DIGRAM FOR GREATER YIN|HAMMER AND PICK|ANCHOR|CROSSED SWORDS",
   "/STAFF OF AESCULAPIUS|SCALES|ALEMBIC|FLOWER|GEAR|STAFF OF HERMES|ATOM SYMBOL|FLEUR-DE-LIS",
   "/OUTLINED WHITE STAR|THREE LINES CONVERGING RIGHT|THREE LINES CONVERGING LEFT|WARNING SIGN",
   "/HIGH VOLTAGE SIGN|DOUBLED FEMALE SIGN|DOUBLED MALE SIGN|INTERLOCKED FEMALE AND MALE SIGN",
   "/MALE AND FEMALE SIGN|MALE WITH STROKE SIGN|MALE WITH STROKE AND MALE AND FEMALE SIGN",
   "/HORIZONTAL MALE WITH STROKE SIGN|MARRIAGE SYMBOL|DIVORCE SYMBOL",
   "/UNMARRIED PARTNERSHIP SYMBOL|COFFIN|FUNERAL URN|NEUTER|CERES|PALLAS|JUNO|VESTA|CHIRON",
   "/SEXTILE|SEMISEXTILE|QUINCUNX|SESQUIQUADRATE|SOCCER BALL|BASEBALL|SQUARED KEY",
   "/SNOWMAN WITHOUT SNOW|SUN BEHIND CLOUD|RAIN|THUNDER CLOUD AND RAIN|CROSSING LANES",
   "/DISABLED CAR|OPHIUCHUS|PICK|CAR SLIDING|HELMET WITH WHITE CROSS|CHAINS|NO ENTRY",
   "/ALTERNATE ONE-WAY LEFT WAY TRAFFIC|DRIVE SLOW SIGN|SQUARED SALTIRE",
   "/FALLING DIAGONAL IN WHITE CIRCLE IN BLACK SQUARE|RESTRICTED LEFT ENTRY-1",
   "/RESTRICTED LEFT ENTRY-2|ASTRONOMICAL SYMBOL FOR URANUS|PENTAGRAM",
   "/RIGHT-HANDED INTERLACED PENTAGRAM|LEFT-HANDED INTERLACED PENTAGRAM|INVERTED PENTAGRAM",
   "/SHINTO SHRINE|CHURCH|CASTLE|HISTORIC SITE|GEAR WITHOUT HUB|GEAR WITH HANDLES",
   "/MAP SYMBOL FOR LIGHTHOUSE|MOUNTAIN|UMBRELLA ON GROUND|FOUNTAIN|FLAG IN HOLE|FERRY|SAILBOAT",
   "/SKIER|ICE SKATE|TENT|JAPANESE BANK SYMBOL|HEADSTONE GRAVEYARD SYMBOL|FUEL PUMP",
   "/CUP ON BLACK SQUARE|TELEPHONE LOCATION SIGN|TAPE DRIVE|AIRPLANE|ENVELOPE|RAISED FIST",
   "/RAISED HAND|VICTORY HAND|WRITING HAND|PENCIL|CHECK MARK|MULTIPLICATION X|BALLOT X",
   "/OUTLINED GREEK CROSS|OPEN CENTRE CROSS|LATIN CROSS|SHADOWED WHITE LATIN CROSS",
   "/OUTLINED LATIN CROSS|MALTESE CROSS|STAR OF DAVID|FOUR TEARDROP-SPOKED ASTERISK",
   "/FOUR BALLOON-SPOKED ASTERISK|FOUR CLUB-SPOKED ASTERISK|SPARKLES|STRESS OUTLINED WHITE STAR",
   "/OPEN CENTRE BLACK STAR|OUTLINED BLACK STAR|PINWHEEL STAR|SHADOWED WHITE STAR",
   "/OPEN CENTRE ASTERISK|EIGHT SPOKED ASTERISK|EIGHT POINTED BLACK STAR",
   "/EIGHT POINTED PINWHEEL STAR|SIX POINTED BLACK STAR|EIGHT POINTED RECTILINEAR BLACK STAR",
   "/TWELVE POINTED BLACK STAR|SIXTEEN POINTED ASTERISK|TEARDROP-SPOKED ASTERISK",
   "/OPEN CENTRE TEARDROP-SPOKED ASTERISK|SIX PETALLED BLACK AND WHITE FLORETTE",
   "/EIGHT PETALLED OUTLINED BLACK FLORETTE|SNOWFLAKE|TIGHT TRIFOLIATE SNOWFLAKE|SPARKLE",
   "/BALLOON-SPOKED ASTERISK|EIGHT TEARDROP-SPOKED PROPELLER ASTERISK|CROSS MARK",
   "/SHADOWED WHITE CIRCLE|NEGATIVE SQUARED CROSS MARK|LIGHT VERTICAL BAR",
   "/CURVED STEM PARAGRAPH SIGN ORNAMENT|ROTATED HEAVY BLACK HEART BULLET|FLORAL HEART",
   "/ROTATED FLORAL HEART BULLET|LIGHT LEFT TORTOISE SHELL BRACKET ORNAMENT",
   "/LIGHT RIGHT TORTOISE SHELL BRACKET ORNAMENT|DINGBAT CIRCLED SANS-SERIF NUMBER TEN",
   "/DRAFTING POINT RIGHTWARDS ARROW|TRIANGLE-HEADED RIGHTWARDS ARROW",
   "/DASHED TRIANGLE-HEADED RIGHTWARDS ARROW|THREE-D TOP-LIGHTED RIGHTWARDS ARROWHEAD",
   "/THREE-D BOTTOM-LIGHTED RIGHTWARDS ARROWHEAD|SQUAT BLACK RIGHTWARDS ARROW",
   "/RIGHT-SHADED WHITE RIGHTWARDS ARROW|LEFT-SHADED WHITE RIGHTWARDS ARROW",
   "/BACK-TILTED SHADOWED WHITE RIGHTWARDS ARROW|FRONT-TILTED SHADOWED WHITE RIGHTWARDS ARROW",
   "/NOTCHED LOWER RIGHT-SHADOWED WHITE RIGHTWARDS ARROW|CURLY LOOP",
   "/NOTCHED UPPER RIGHT-SHADOWED WHITE RIGHTWARDS ARROW|WHITE-FEATHERED RIGHTWARDS ARROW",
   "/BLACK-FEATHERED SOUTH EAST ARROW|BLACK-FEATHERED RIGHTWARDS ARROW",
   "/BLACK-FEATHERED NORTH EAST ARROW|TEARDROP-BARBED RIGHTWARDS ARROW",
   "/WEDGE-TAILED RIGHTWARDS ARROW|OPEN-OUTLINED RIGHTWARDS ARROW|DITTO MARK",
   "/JAPANESE INDUSTRIAL STANDARD SYMBOL|POSTAL MARK|GETA MARK|WAVE DASH",
   "/LOW DOUBLE PRIME QUOTATION MARK|POSTAL MARK FACE|HANGUL SINGLE DOT TONE MARK",
   "/HANGUL DOUBLE DOT TONE MARK|WAVY DASH|MASU MARK|PART ALTERNATION MARK",
   "/ZERO WIDTH NO-BREAK SPACE|OBJECT REPLACEMENT CHARACTER|REPLACEMENT CHARACTER|CYCLONE|FOGGY",
   "/CLOSED UMBRELLA|NIGHT WITH STARS|SUNRISE OVER MOUNTAINS|SUNRISE|CITYSCAPE AT DUSK",
   "/SUNSET OVER BUILDINGS|RAINBOW|BRIDGE AT NIGHT|WATER WAVE|VOLCANO|MILKY WAY",
   "/EARTH GLOBE EUROPE-AFRICA|EARTH GLOBE AMERICAS|EARTH GLOBE ASIA-AUSTRALIA",
   "/GLOBE WITH MERIDIANS|NEW MOON SYMBOL|WAXING CRESCENT MOON SYMBOL|FIRST QUARTER MOON SYMBOL",
   "/WAXING GIBBOUS MOON SYMBOL|FULL MOON SYMBOL|WANING GIBBOUS MOON SYMBOL",
   "/LAST QUARTER MOON SYMBOL|WANING CRESCENT MOON SYMBOL|CRESCENT MOON|NEW MOON WITH FACE",
   "/FIRST QUARTER MOON WITH FACE|LAST QUARTER MOON WITH FACE|FULL MOON WITH FACE|SUN WITH FACE",
   "/GLOWING STAR|SHOOTING STAR|THERMOMETER|CLOUD WITH RAIN|CLOUD WITH SNOW|CLOUD WITH LIGHTNING",
   "/CLOUD WITH TORNADO|FOG|WIND BLOWING FACE|HOT DOG|TACO|BURRITO|CHESTNUT|SEEDLING",
   "/EVERGREEN TREE|DECIDUOUS TREE|PALM TREE|CACTUS|HOT PEPPER|TULIP|CHERRY BLOSSOM|ROSE",
   "/HIBISCUS|SUNFLOWER|BLOSSOM|EAR OF MAIZE|EAR OF RICE|HERB|FOUR LEAF CLOVER|MAPLE LEAF",
   "/FALLEN LEAF|LEAF FLUTTERING IN WIND|MUSHROOM|TOMATO|AUBERGINE|GRAPES|MELON|WATERMELON",
   "/TANGERINE|LEMON|BANANA|PINEAPPLE|RED APPLE|GREEN APPLE|PEAR|PEACH|CHERRIES|STRAWBERRY",
   "/HAMBURGER|SLICE OF PIZZA|MEAT ON BONE|POULTRY LEG|RICE CRACKER|RICE BALL|COOKED RICE",
   "/CURRY AND RICE|STEAMING BOWL|SPAGHETTI|BREAD|FRENCH FRIES|ROASTED SWEET POTATO|DANGO|ODEN",
   "/SUSHI|FRIED SHRIMP|FISH CAKE WITH SWIRL DESIGN|SOFT ICE CREAM|SHAVED ICE|ICE CREAM|DOUGHNUT",
   "/COOKIE|CHOCOLATE BAR|CANDY|LOLLIPOP|CUSTARD|HONEY POT|SHORTCAKE|BENTO BOX|POT OF FOOD",
   "/COOKING|FORK AND KNIFE|TEACUP WITHOUT HANDLE|SAKE BOTTLE AND CUP|WINE GLASS|COCKTAIL GLASS",
   "/TROPICAL DRINK|BEER MUG|CLINKING BEER MUGS|BABY BOTTLE|FORK AND KNIFE WITH PLATE",
   "/BOTTLE WITH POPPING CORK|POPCORN|RIBBON|WRAPPED PRESENT|BIRTHDAY CAKE|JACK-O-LANTERN",
   "/CHRISTMAS TREE|FATHER CHRISTMAS|FIREWORKS|FIREWORK SPARKLER|BALLOON|PARTY POPPER",
   "/CONFETTI BALL|TANABATA TREE|CROSSED FLAGS|PINE DECORATION|JAPANESE DOLLS|CARP STREAMER",
   "/WIND CHIME|MOON VIEWING CEREMONY|SCHOOL SATCHEL|GRADUATION CAP|HEART WITH TIP ON THE LEFT",
   "/BOUQUET OF FLOWERS|MILITARY MEDAL|REMINDER RIBBON|MUSICAL KEYBOARD WITH JACKS",
   "/STUDIO MICROPHONE|LEVEL SLIDER|CONTROL KNOBS|BEAMED ASCENDING MUSICAL NOTES",
   "/BEAMED DESCENDING MUSICAL NOTES|FILM FRAMES|ADMISSION TICKETS|CAROUSEL HORSE|FERRIS WHEEL",
   "/ROLLER COASTER|FISHING POLE AND FISH|MICROPHONE|MOVIE CAMERA|CINEMA|HEADPHONE",
   "/ARTIST PALETTE|TOP HAT|CIRCUS TENT|TICKET|CLAPPER BOARD|PERFORMING ARTS|VIDEO GAME",
   "/DIRECT HIT|SLOT MACHINE|BILLIARDS|GAME DIE|BOWLING|FLOWER PLAYING CARDS|MUSICAL NOTE",
   "/MULTIPLE MUSICAL NOTES|SAXOPHONE|GUITAR|MUSICAL KEYBOARD|TRUMPET|VIOLIN|MUSICAL SCORE",
   "/RUNNING SHIRT WITH SASH|TENNIS RACQUET AND BALL|SKI AND SKI BOOT|BASKETBALL AND HOOP",
   "/CHEQUERED FLAG|SNOWBOARDER|RUNNER|SURFER|SPORTS MEDAL|TROPHY|HORSE RACING|AMERICAN FOOTBALL",
   "/RUGBY FOOTBALL|SWIMMER|WEIGHT LIFTER|GOLFER|RACING MOTORCYCLE|RACING CAR",
   "/CRICKET BAT AND BALL|VOLLEYBALL|FIELD HOCKEY STICK AND BALL|ICE HOCKEY STICK AND PUCK",
   "/TABLE TENNIS PADDLE AND BALL|SNOW CAPPED MOUNTAIN|CAMPING|BEACH WITH UMBRELLA",
   "/BUILDING CONSTRUCTION|HOUSE BUILDINGS|CITYSCAPE|DERELICT HOUSE BUILDING|CLASSICAL BUILDING",
   "/DESERT|DESERT ISLAND|NATIONAL PARK|STADIUM|HOUSE BUILDING|HOUSE WITH GARDEN|OFFICE BUILDING",
   "/JAPANESE POST OFFICE|EUROPEAN POST OFFICE|HOSPITAL|BANK|AUTOMATED TELLER MACHINE|HOTEL",
   "/LOVE HOTEL|CONVENIENCE STORE|SCHOOL|DEPARTMENT STORE|FACTORY|IZAKAYA LANTERN",
   "/JAPANESE CASTLE|EUROPEAN CASTLE|WAVING WHITE FLAG|WAVING BLACK FLAG|ROSETTE|LABEL",
   "/BADMINTON RACQUET AND SHUTTLECOCK|BOW AND ARROW|AMPHORA|RAT|MOUSE|OX|WATER BUFFALO|COW",
   "/TIGER|LEOPARD|RABBIT|CAT|DRAGON|CROCODILE|WHALE|SNAIL|SNAKE|HORSE|RAM|GOAT|SHEEP|MONKEY",
   "/ROOSTER|CHICKEN|DOG|PIG|BOAR|ELEPHANT|OCTOPUS|SPIRAL SHELL|BUG|ANT|HONEYBEE|LADY BEETLE",
   "/FISH|TROPICAL FISH|BLOWFISH|TURTLE|HATCHING CHICK|BABY CHICK|FRONT-FACING BABY CHICK|BIRD",
   "/PENGUIN|KOALA|POODLE|DROMEDARY CAMEL|BACTRIAN CAMEL|DOLPHIN|MOUSE FACE|COW FACE|TIGER FACE",
   "/RABBIT FACE|CAT FACE|DRAGON FACE|SPOUTING WHALE|HORSE FACE|MONKEY FACE|DOG FACE|PIG FACE",
   "/FROG FACE|HAMSTER FACE|WOLF FACE|BEAR FACE|PANDA FACE|PIG NOSE|PAW PRINTS|CHIPMUNK|EYES|EYE",
   "/EAR|NOSE|MOUTH|TONGUE|FISTED HAND SIGN|WAVING HAND SIGN|OK HAND SIGN|THUMBS UP SIGN",
   "/THUMBS DOWN SIGN|CLAPPING HANDS SIGN|OPEN HANDS SIGN|CROWN|WOMANS HAT|EYEGLASSES|NECKTIE",
   "/T-SHIRT|JEANS|DRESS|KIMONO|BIKINI|WOMANS CLOTHES|PURSE|HANDBAG|POUCH|MANS SHOE",
   "/ATHLETIC SHOE|HIGH-HEELED SHOE|WOMANS SANDAL|WOMANS BOOTS|FOOTPRINTS|BUST IN SILHOUETTE",
   "/BUSTS IN SILHOUETTE|BOY|GIRL|MAN|WOMAN|FAMILY|MAN AND WOMAN HOLDING HANDS",
   "/TWO MEN HOLDING HANDS|TWO WOMEN HOLDING HANDS|POLICE OFFICER|WOMAN WITH BUNNY EARS",
   "/BRIDE WITH VEIL|MAN WITH GUA PI MAO|MAN WITH TURBAN|OLDER MAN|OLDER WOMAN|BABY",
   "/CONSTRUCTION WORKER|PRINCESS|JAPANESE OGRE|JAPANESE GOBLIN|GHOST|BABY ANGEL",
   "/EXTRATERRESTRIAL ALIEN|ALIEN MONSTER|IMP|SKULL|INFORMATION DESK PERSON|GUARDSMAN|DANCER",
   "/LIPSTICK|NAIL POLISH|FACE MASSAGE|HAIRCUT|BARBER POLE|SYRINGE|PILL|KISS MARK|LOVE LETTER",
   "/RING|GEM STONE|KISS|BOUQUET|COUPLE WITH HEART|WEDDING|BEATING HEART|BROKEN HEART|TWO HEARTS",
   "/SPARKLING HEART|GROWING HEART|HEART WITH ARROW|BLUE HEART|GREEN HEART|YELLOW HEART",
   "/PURPLE HEART|HEART WITH RIBBON|REVOLVING HEARTS|HEART DECORATION",
   "/DIAMOND SHAPE WITH A DOT INSIDE|ELECTRIC LIGHT BULB|ANGER SYMBOL|BOMB|SLEEPING SYMBOL",
   "/COLLISION SYMBOL|SPLASHING SWEAT SYMBOL|DROPLET|DASH SYMBOL|PILE OF POO|FLEXED BICEPS",
   "/DIZZY SYMBOL|SPEECH BALLOON|THOUGHT BALLOON|HUNDRED POINTS SYMBOL|MONEY BAG",
   "/CURRENCY EXCHANGE|CREDIT CARD|BANKNOTE WITH YEN SIGN|BANKNOTE WITH DOLLAR SIGN",
   "/BANKNOTE WITH EURO SIGN|BANKNOTE WITH POUND SIGN|MONEY WITH WINGS",
   "/CHART WITH UPWARDS TREND AND YEN SIGN|SEAT|PERSONAL COMPUTER|BRIEFCASE|MINIDISC|FLOPPY DISK",
   "/OPTICAL DISC|DVD|FILE FOLDER|OPEN FILE FOLDER|PAGE WITH CURL|PAGE FACING UP|CALENDAR",
   "/TEAR-OFF CALENDAR|CARD INDEX|CHART WITH UPWARDS TREND|CHART WITH DOWNWARDS TREND|BAR CHART",
   "/CLIPBOARD|PUSHPIN|ROUND PUSHPIN|PAPERCLIP|STRAIGHT RULER|TRIANGULAR RULER|BOOKMARK TABS",
   "/LEDGER|NOTEBOOK|NOTEBOOK WITH DECORATIVE COVER|CLOSED BOOK|OPEN BOOK|GREEN BOOK|BLUE BOOK",
   "/ORANGE BOOK|BOOKS|NAME BADGE|SCROLL|MEMO|TELEPHONE RECEIVER|PAGER|FAX MACHINE",
   "/SATELLITE ANTENNA|PUBLIC ADDRESS LOUDSPEAKER|CHEERING MEGAPHONE|OUTBOX TRAY|INBOX TRAY",
   "/PACKAGE|E-MAIL SYMBOL|INCOMING ENVELOPE|ENVELOPE WITH DOWNWARDS ARROW ABOVE",
   "/CLOSED MAILBOX WITH LOWERED FLAG|CLOSED MAILBOX WITH RAISED FLAG",
   "/OPEN MAILBOX WITH RAISED FLAG|OPEN MAILBOX WITH LOWERED FLAG|POSTBOX|POSTAL HORN|NEWSPAPER",
   "/MOBILE PHONE|MOBILE PHONE WITH RIGHTWARDS ARROW AT LEFT|VIBRATION MODE|MOBILE PHONE OFF",
   "/NO MOBILE PHONES|ANTENNA WITH BARS|CAMERA|CAMERA WITH FLASH|VIDEO CAMERA|TELEVISION|RADIO",
   "/VIDEOCASSETTE|FILM PROJECTOR|PORTABLE STEREO|PRAYER BEADS|TWISTED RIGHTWARDS ARROWS",
   "/ANTICLOCKWISE DOWNWARDS AND UPWARDS OPEN CIRCLE ARROWS|LOW BRIGHTNESS SYMBOL",
   "/HIGH BRIGHTNESS SYMBOL|SPEAKER WITH CANCELLATION STROKE|SPEAKER|SPEAKER WITH ONE SOUND WAVE",
   "/SPEAKER WITH THREE SOUND WAVES|BATTERY|ELECTRIC PLUG|LEFT-POINTING MAGNIFYING GLASS",
   "/RIGHT-POINTING MAGNIFYING GLASS|LOCK WITH INK PEN|CLOSED LOCK WITH KEY|KEY|LOCK|OPEN LOCK",
   "/BELL|BELL WITH CANCELLATION STROKE|BOOKMARK|LINK SYMBOL|RADIO BUTTON",
   "/BACK WITH LEFTWARDS ARROW ABOVE|END WITH LEFTWARDS ARROW ABOVE",
   "/ON WITH EXCLAMATION MARK WITH LEFT RIGHT ARROW ABOVE|SOON WITH RIGHTWARDS ARROW ABOVE",
   "/TOP WITH UPWARDS ARROW ABOVE|NO ONE UNDER EIGHTEEN SYMBOL|KEYCAP TEN|FIRE|ELECTRIC TORCH",
   "/WRENCH|HAMMER|NUT AND BOLT|HOCHO|PISTOL|MICROSCOPE|TELESCOPE|CRYSTAL BALL",
   "/SIX POINTED STAR WITH MIDDLE DOT|JAPANESE SYMBOL FOR BEGINNER|TRIDENT EMBLEM",
   "/LARGE RED CIRCLE|LARGE BLUE CIRCLE|LARGE ORANGE DIAMOND|LARGE BLUE DIAMOND",
   "/SMALL ORANGE DIAMOND|SMALL BLUE DIAMOND|DOWN-POINTING RED TRIANGLE",
   "/DOWN-POINTING SMALL RED TRIANGLE|CROSS POMMEE WITH HALF-CIRCLE BELOW|CROSS POMMEE",
   "/NOTCHED LEFT SEMICIRCLE WITH THREE DOTS|NOTCHED RIGHT SEMICIRCLE WITH THREE DOTS",
   "/SYMBOL FOR MARKS CHAPTER|CELTIC CROSS|OM SYMBOL|DOVE OF PEACE|KAABA|MOSQUE|SYNAGOGUE",
   "/MENORAH WITH NINE BRANCHES|BOWL OF HYGIEIA|BULLHORN|BULLHORN WITH SOUND WAVES|RINGING BELL",
   "/BOOK|CANDLE|MANTELPIECE CLOCK|NO PIRACY|HOLE|MAN IN BUSINESS SUIT LEVITATING|SLEUTH OR SPY",
   "/DARK SUNGLASSES|SPIDER|SPIDER WEB|JOYSTICK|MAN DANCING|TELEPHONE RECEIVER WITH PAGE",
   "/TELEPHONE ON TOP OF MODEM|CLAMSHELL MOBILE PHONE|BACK OF ENVELOPE|STAMPED ENVELOPE",
   "/ENVELOPE WITH LIGHTNING|FLYING ENVELOPE|PEN OVER STAMPED ENVELOPE|LINKED PAPERCLIPS",
   "/RAISED HAND WITH FINGERS SPLAYED|RAISED HAND WITH PART BETWEEN MIDDLE AND RING FINGERS",
   "/SIDEWAYS WHITE LEFT POINTING INDEX|SIDEWAYS WHITE RIGHT POINTING INDEX",
   "/SIDEWAYS BLACK LEFT POINTING INDEX|SIDEWAYS BLACK RIGHT POINTING INDEX",
   "/SIDEWAYS WHITE UP POINTING INDEX|SIDEWAYS WHITE DOWN POINTING INDEX",
   "/SIDEWAYS BLACK UP POINTING INDEX|SIDEWAYS BLACK DOWN POINTING INDEX|DESKTOP COMPUTER",
   "/KEYBOARD AND MOUSE|THREE NETWORKED COMPUTERS|PRINTER|POCKET CALCULATOR",
   "/SOFT SHELL FLOPPY DISK|TAPE CARTRIDGE|WIRED KEYBOARD|ONE BUTTON MOUSE|TWO BUTTON MOUSE",
   "/THREE BUTTON MOUSE|TRACKBALL|OLD PERSONAL COMPUTER|HARD DISK|SCREEN|PRINTER ICON|FAX ICON",
   "/OPTICAL DISC ICON|DOCUMENT WITH TEXT|DOCUMENT WITH TEXT AND PICTURE|DOCUMENT WITH PICTURE",
   "/FRAME WITH PICTURE|FRAME WITH TILES|FRAME WITH AN X|FOLDER|OPEN FOLDER|CARD INDEX DIVIDERS",
   "/CARD FILE BOX|FILE CABINET|EMPTY NOTE|EMPTY NOTE PAGE|EMPTY NOTE PAD|NOTE|NOTE PAGE",
   "/NOTE PAD|EMPTY DOCUMENT|EMPTY PAGE|EMPTY PAGES|DOCUMENT|PAGE|PAGES|WASTEBASKET",
   "/SPIRAL NOTE PAD|SPIRAL CALENDAR PAD|DESKTOP WINDOW|MINIMIZE|MAXIMIZE|OVERLAP|CANCELLATION X",
   "/INCREASE FONT SIZE SYMBOL|DECREASE FONT SIZE SYMBOL|COMPRESSION|OLD KEY|ROLLED-UP NEWSPAPER",
   "/PAGE WITH CIRCLED TEXT|STOCK CHART|DAGGER KNIFE|LIPS|SPEAKING HEAD IN SILHOUETTE",
   "/THREE RAYS ABOVE|THREE RAYS BELOW|THREE RAYS LEFT|THREE RAYS RIGHT|TWO SPEECH BUBBLES",
   "/THREE SPEECH BUBBLES|MOOD BUBBLE|LIGHTNING MOOD BUBBLE|LIGHTNING MOOD|BALLOT SCRIPT X",
   "/BALLOT BOLD SCRIPT X|LIGHT CHECK MARK|WORLD MAP|MOUNT FUJI|TOKYO TOWER|STATUE OF LIBERTY",
   "/SILHOUETTE OF JAPAN|MOYAI|GRINNING FACE|GRINNING FACE WITH SMILING EYES|WINKING FACE",
   "/FACE SAVOURING DELICIOUS FOOD|RELIEVED FACE|SMIRKING FACE|NEUTRAL FACE|EXPRESSIONLESS FACE",
   "/UNAMUSED FACE|PENSIVE FACE|CONFUSED FACE|CONFOUNDED FACE|KISSING FACE|FACE THROWING A KISS",
   "/KISSING FACE WITH SMILING EYES|KISSING FACE WITH CLOSED EYES|DISAPPOINTED FACE|WORRIED FACE",
   "/ANGRY FACE|POUTING FACE|CRYING FACE|PERSEVERING FACE|DISAPPOINTED BUT RELIEVED FACE",
   "/FROWNING FACE WITH OPEN MOUTH|ANGUISHED FACE|FEARFUL FACE|WEARY FACE|SLEEPY FACE|TIRED FACE",
   "/GRIMACING FACE|LOUDLY CRYING FACE|HUSHED FACE|FACE SCREAMING IN FEAR|ASTONISHED FACE",
   "/FLUSHED FACE|SLEEPING FACE|DIZZY FACE|FACE WITHOUT MOUTH",
   "/GRINNING CAT FACE WITH SMILING EYES|CAT FACE WITH TEARS OF JOY",
   "/SMILING CAT FACE WITH OPEN MOUTH|SMILING CAT FACE WITH HEART-SHAPED EYES",
   "/CAT FACE WITH WRY SMILE|KISSING CAT FACE WITH CLOSED EYES|POUTING CAT FACE|CRYING CAT FACE",
   "/WEARY CAT FACE|SLIGHTLY FROWNING FACE|SLIGHTLY SMILING FACE|UPSIDE-DOWN FACE",
   "/SEE-NO-EVIL MONKEY|HEAR-NO-EVIL MONKEY|SPEAK-NO-EVIL MONKEY|HAPPY PERSON RAISING ONE HAND",
   "/ROCKET|HELICOPTER|STEAM LOCOMOTIVE|RAILWAY CAR|HIGH-SPEED TRAIN",
   "/HIGH-SPEED TRAIN WITH BULLET NOSE|TRAIN|METRO|LIGHT RAIL|STATION|TRAM|TRAM CAR|BUS",
   "/ONCOMING BUS|TROLLEYBUS|BUS STOP|MINIBUS|AMBULANCE|FIRE ENGINE|POLICE CAR",
   "/ONCOMING POLICE CAR|TAXI|ONCOMING TAXI|AUTOMOBILE|ONCOMING AUTOMOBILE|RECREATIONAL VEHICLE",
   "/DELIVERY TRUCK|ARTICULATED LORRY|TRACTOR|MONORAIL|MOUNTAIN RAILWAY|SUSPENSION RAILWAY",
   "/MOUNTAIN CABLEWAY|AERIAL TRAMWAY|SHIP|ROWBOAT|SPEEDBOAT|HORIZONTAL TRAFFIC LIGHT",
   "/CONSTRUCTION SIGN|POLICE CARS REVOLVING LIGHT|TRIANGULAR FLAG ON POST|DOOR|NO ENTRY SIGN",
   "/SMOKING SYMBOL|NO SMOKING SYMBOL|PUT LITTER IN ITS PLACE SYMBOL|DO NOT LITTER SYMBOL",
   "/POTABLE WATER SYMBOL|NON-POTABLE WATER SYMBOL|BICYCLE|NO BICYCLES|BICYCLIST",
   "/MOUNTAIN BICYCLIST|PEDESTRIAN|NO PEDESTRIANS|CHILDREN CROSSING|MENS SYMBOL|WOMENS SYMBOL",
   "/RESTROOM|BABY SYMBOL|TOILET|WATER CLOSET|SHOWER|BATH|BATHTUB|PASSPORT CONTROL|CUSTOMS",
   "/BAGGAGE CLAIM|TRIANGLE WITH ROUNDED CORNERS|PROHIBITED SIGN|BOYS SYMBOL|GIRLS SYMBOL",
   "/COUCH AND LAMP|SLEEPING ACCOMMODATION|SHOPPING BAGS|BELLHOP BELL|BED|PLACE OF WORSHIP",
   "/OCTAGONAL SIGN|SHOPPING TROLLEY|STUPA|PAGODA|HINDU TEMPLE|HUT|ELEVATOR|PLAYGROUND SLIDE",
   "/WHEEL|RING BUOY|HAMMER AND WRENCH|SHIELD|OIL DRUM|MOTORWAY|RAILWAY TRACK|MOTOR BOAT",
   "/SMALL AIRPLANE|NORTHEAST-POINTING AIRPLANE|AIRPLANE DEPARTURE|AIRPLANE ARRIVING|SATELLITE",
   "/ONCOMING FIRE ENGINE|DIESEL LOCOMOTIVE|PASSENGER SHIP|SCOOTER|MOTOR SCOOTER|CANOE|SLED",
   "/FLYING SAUCER|SKATEBOARD|AUTO RICKSHAW|PICKUP TRUCK|ROLLER SKATE|DOWNWARD FACING HOOK",
   "/DOWNWARD FACING NOTCHED HOOK|DOWNWARD FACING HOOK WITH DOT",
   "/DOWNWARD FACING NOTCHED HOOK WITH DOT|PINCHED FINGERS|BROWN HEART|PINCHING HAND",
   "/ZIPPER-MOUTH FACE|MONEY-MOUTH FACE|NERD FACE|THINKING FACE|ROBOT FACE|HUGGING FACE",
   "/SIGN OF THE HORNS|CALL ME HAND|RAISED BACK OF HAND|LEFT-FACING FIST|RIGHT-FACING FIST",
   "/HANDSHAKE|HAND WITH INDEX AND MIDDLE FINGERS CROSSED|I LOVE YOU HAND SIGN|CLOWN FACE",
   "/NAUSEATED FACE|ROLLING ON THE FLOOR LAUGHING|DROOLING FACE|LYING FACE|FACE PALM",
   "/SNEEZING FACE|GRINNING FACE WITH STAR EYES|GRINNING FACE WITH ONE LARGE AND ONE SMALL EYE",
   "/SERIOUS FACE WITH SYMBOLS COVERING MOUTH|SHOCKED FACE WITH EXPLODING HEAD|PREGNANT WOMAN",
   "/BREAST-FEEDING|PALMS UP TOGETHER|SELFIE|PRINCE|MAN IN TUXEDO|MOTHER CHRISTMAS|SHRUG",
   "/JUGGLING|FENCER|MODERN PENTATHLON|WRESTLERS|WATER POLO|HANDBALL|DIVING MASK|WILTED FLOWER",
   "/DRUM WITH DRUMSTICKS|CLINKING GLASSES|TUMBLER GLASS|SPOON|GOAL NET|RIFLE|FIRST PLACE MEDAL",
   "/SECOND PLACE MEDAL|THIRD PLACE MEDAL|BOXING GLOVE|MARTIAL ARTS UNIFORM|CURLING STONE",
   "/LACROSSE STICK AND BALL|SOFTBALL|FLYING DISC|CROISSANT|AVOCADO|CUCUMBER|BACON|POTATO|CARROT",
   "/BAGUETTE BREAD|GREEN SALAD|SHALLOW PAN OF FOOD|STUFFED FLATBREAD|EGG|GLASS OF MILK|PEANUTS",
   "/KIWIFRUIT|PANCAKES|DUMPLING|FORTUNE COOKIE|TAKEOUT BOX|CHOPSTICKS|BOWL WITH SPOON",
   "/CUP WITH STRAW|COCONUT|BROCCOLI|PIE|PRETZEL|CUT OF MEAT|SANDWICH|CANNED FOOD|LEAFY GREEN",
   "/MANGO|MOON CAKE|BAGEL|YAWNING FACE|OVERHEATED FACE|FREEZING FACE|NINJA|DISGUISED FACE",
   "/FACE HOLDING BACK TEARS|SARI|LAB COAT|GOGGLES|HIKING BOOT|FLAT SHOE|CRAB|LION FACE|SCORPION",
   "/TURKEY|UNICORN FACE|EAGLE|DUCK|BAT|SHARK|OWL|FOX FACE|BUTTERFLY|DEER|GORILLA|LIZARD",
   "/RHINOCEROS|SHRIMP|SQUID|GIRAFFE FACE|ZEBRA FACE|HEDGEHOG|SAUROPOD|T-REX|CRICKET|KANGAROO",
   "/LLAMA|PEACOCK|HIPPOPOTAMUS|PARROT|RACCOON|LOBSTER|MOSQUITO|MICROBE|BADGER|SWAN|MAMMOTH|DODO",
   "/SLOTH|OTTER|ORANGUTAN|SKUNK|FLAMINGO|OYSTER|BEAVER|BISON|SEAL|GUIDE DOG|PROBING CANE",
   "/EMOJI COMPONENT RED HAIR|EMOJI COMPONENT CURLY HAIR|EMOJI COMPONENT BALD",
   "/EMOJI COMPONENT WHITE HAIR|BONE|LEG|FOOT|TOOTH|SUPERHERO|SUPERVILLAIN|SAFETY VEST",
   "/EAR WITH HEARING AID|MOTORIZED WHEELCHAIR|MANUAL WHEELCHAIR|MECHANICAL ARM|MECHANICAL LEG",
   "/CHEESE WEDGE|CUPCAKE|SALT SHAKER|BEVERAGE BOX|GARLIC|ONION|FALAFEL|WAFFLE|BUTTER|MATE DRINK",
   "/ICE CUBE|BUBBLE TEA|TROLL|STANDING PERSON|KNEELING PERSON|DEAF PERSON|ADULT|CHILD",
   "/OLDER ADULT|BEARDED PERSON|MAGE|FAIRY|VAMPIRE|MERPERSON|ELF|GENIE|ZOMBIE|BRAIN|ORANGE HEART",
   "/BILLED CAP|SCARF|GLOVES|COAT|SOCKS|RED GIFT ENVELOPE|FIRECRACKER|JIGSAW PUZZLE PIECE",
   "/TEST TUBE|PETRI DISH|DNA DOUBLE HELIX|COMPASS|ABACUS|FIRE EXTINGUISHER|TOOLBOX|BRICK|MAGNET",
   "/LUGGAGE|LOTION BOTTLE|SPOOL OF THREAD|BALL OF YARN|SAFETY PIN|TEDDY BEAR|BROOM|BASKET",
   "/ROLL OF PAPER|BAR OF SOAP|SPONGE|RECEIPT|NAZAR AMULET"]

end ComponentQueries.Text
