import LineMachine.Text.CharacterName.Row

/-!
# Names of letters

The names of the letters of some scripts, Latin, Greek and Cyrillic above all, and of the marks
that combine with them.
-/

namespace LineMachine.Text

/-- Names of letters and combining marks. -/
def letterNameRows : List NameRow := [
  ⟨0x250, ["LATIN SMALL LETTER"],
    "TURNED A, ALPHA, TURNED ALPHA, B WITH HOOK, OPEN O, C WITH CURL, D WITH TAIL, D WITH HOOK,
      REVERSED E, SCHWA, SCHWA WITH HOOK, OPEN E, REVERSED OPEN E, REVERSED OPEN E WITH HOOK,
      CLOSED REVERSED OPEN E, DOTLESS J WITH STROKE, G WITH HOOK, SCRIPT G"⟩,
  ⟨0x262, [""], "LATIN LETTER SMALL CAPITAL G"⟩,
  ⟨0x263, ["LATIN SMALL LETTER"],
    "GAMMA, RAMS HORN, TURNED H, H WITH HOOK, HENG WITH HOOK, I WITH STROKE, IOTA"⟩,
  ⟨0x26A, [""], "LATIN LETTER SMALL CAPITAL I"⟩,
  ⟨0x26B, ["LATIN SMALL LETTER"],
    "L WITH MIDDLE TILDE, L WITH BELT, L WITH RETROFLEX HOOK, LEZH, TURNED M, TURNED M WITH LONG
      LEG, M WITH HOOK, N WITH LEFT HOOK, N WITH RETROFLEX HOOK"⟩,
  ⟨0x274, [""],
    "LATIN LETTER SMALL CAPITAL N, LATIN SMALL LETTER BARRED O, LATIN LETTER SMALL CAPITAL OE"⟩,
  ⟨0x277, ["LATIN SMALL LETTER"],
    "CLOSED OMEGA, PHI, TURNED R, TURNED R WITH LONG LEG, TURNED R WITH HOOK, R WITH LONG LEG, R
      WITH TAIL, R WITH FISHHOOK, REVERSED R WITH FISHHOOK"⟩,
  ⟨0x280, [""], "LATIN LETTER SMALL CAPITAL R, LATIN LETTER SMALL CAPITAL INVERTED R"⟩,
  ⟨0x282, ["LATIN SMALL LETTER"],
    "S WITH HOOK, ESH, DOTLESS J WITH STROKE AND HOOK, SQUAT REVERSED ESH, ESH WITH CURL, TURNED
      T, T WITH RETROFLEX HOOK, U BAR, UPSILON, V WITH HOOK, TURNED V, TURNED W, TURNED Y"⟩,
  ⟨0x28F, [""], "LATIN LETTER SMALL CAPITAL Y"⟩,
  ⟨0x290, ["LATIN SMALL LETTER"], "Z WITH RETROFLEX HOOK, Z WITH CURL, EZH, EZH WITH CURL"⟩,
  ⟨0x294, ["LATIN LETTER"],
    "GLOTTAL STOP, PHARYNGEAL VOICED FRICATIVE, INVERTED GLOTTAL STOP, STRETCHED C, BILABIAL
      CLICK, SMALL CAPITAL B"⟩,
  ⟨0x29A, [""],
    "LATIN SMALL LETTER CLOSED OPEN E, LATIN LETTER SMALL CAPITAL G WITH HOOK, LATIN LETTER
      SMALL CAPITAL H, LATIN SMALL LETTER J WITH CROSSED-TAIL, LATIN SMALL LETTER TURNED K, LATIN
      LETTER SMALL CAPITAL L, LATIN SMALL LETTER Q WITH HOOK, LATIN LETTER GLOTTAL STOP WITH
      STROKE, LATIN LETTER REVERSED GLOTTAL STOP WITH STROKE"⟩,
  ⟨0x2A3, ["LATIN SMALL LETTER"],
    "DZ DIGRAPH, DEZH DIGRAPH, DZ DIGRAPH WITH CURL, TS DIGRAPH, TESH DIGRAPH, TC DIGRAPH WITH
      CURL, FENG DIGRAPH, LS DIGRAPH, LZ DIGRAPH"⟩,
  ⟨0x2AC, [""],
    "LATIN LETTER BILABIAL PERCUSSIVE, LATIN LETTER BIDENTAL PERCUSSIVE, LATIN SMALL LETTER
      TURNED H WITH FISHHOOK, LATIN SMALL LETTER TURNED H WITH FISHHOOK AND TAIL, MODIFIER LETTER
      SMALL H, MODIFIER LETTER SMALL H WITH HOOK, MODIFIER LETTER SMALL J, MODIFIER LETTER SMALL
      R, MODIFIER LETTER SMALL TURNED R, MODIFIER LETTER SMALL TURNED R WITH HOOK, MODIFIER LETTER
      SMALL CAPITAL INVERTED R, MODIFIER LETTER SMALL W, MODIFIER LETTER SMALL Y, MODIFIER LETTER
      PRIME, MODIFIER LETTER DOUBLE PRIME, MODIFIER LETTER TURNED COMMA, MODIFIER LETTER
      APOSTROPHE, MODIFIER LETTER REVERSED COMMA, MODIFIER LETTER RIGHT HALF RING, MODIFIER LETTER
      LEFT HALF RING, MODIFIER LETTER GLOTTAL STOP, MODIFIER LETTER REVERSED GLOTTAL STOP,
      MODIFIER LETTER LEFT ARROWHEAD, MODIFIER LETTER RIGHT ARROWHEAD, MODIFIER LETTER UP
      ARROWHEAD, MODIFIER LETTER DOWN ARROWHEAD, MODIFIER LETTER CIRCUMFLEX ACCENT, CARON,
      MODIFIER LETTER VERTICAL LINE, MODIFIER LETTER MACRON, MODIFIER LETTER ACUTE ACCENT,
      MODIFIER LETTER GRAVE ACCENT, MODIFIER LETTER LOW VERTICAL LINE, MODIFIER LETTER LOW MACRON,
      MODIFIER LETTER LOW GRAVE ACCENT, MODIFIER LETTER LOW ACUTE ACCENT, MODIFIER LETTER
      TRIANGULAR COLON, MODIFIER LETTER HALF TRIANGULAR COLON, MODIFIER LETTER CENTRED RIGHT HALF
      RING, MODIFIER LETTER CENTRED LEFT HALF RING, MODIFIER LETTER UP TACK, MODIFIER LETTER DOWN
      TACK, MODIFIER LETTER PLUS SIGN, MODIFIER LETTER MINUS SIGN, BREVE, DOT ABOVE, RING ABOVE,
      OGONEK, SMALL TILDE, DOUBLE ACUTE ACCENT, MODIFIER LETTER RHOTIC HOOK, MODIFIER LETTER CROSS
      ACCENT, MODIFIER LETTER SMALL GAMMA, MODIFIER LETTER SMALL L, MODIFIER LETTER SMALL S,
      MODIFIER LETTER SMALL X, MODIFIER LETTER SMALL REVERSED GLOTTAL STOP, MODIFIER LETTER
      EXTRA-HIGH TONE BAR, MODIFIER LETTER HIGH TONE BAR, MODIFIER LETTER MID TONE BAR, MODIFIER
      LETTER LOW TONE BAR, MODIFIER LETTER EXTRA-LOW TONE BAR, MODIFIER LETTER YIN DEPARTING TONE
      MARK, MODIFIER LETTER YANG DEPARTING TONE MARK, MODIFIER LETTER VOICING, MODIFIER LETTER
      UNASPIRATED, MODIFIER LETTER DOUBLE APOSTROPHE, MODIFIER LETTER LOW DOWN ARROWHEAD, MODIFIER
      LETTER LOW UP ARROWHEAD, MODIFIER LETTER LOW LEFT ARROWHEAD, MODIFIER LETTER LOW RIGHT
      ARROWHEAD, MODIFIER LETTER LOW RING, MODIFIER LETTER MIDDLE GRAVE ACCENT, MODIFIER LETTER
      MIDDLE DOUBLE GRAVE ACCENT, MODIFIER LETTER MIDDLE DOUBLE ACUTE ACCENT, MODIFIER LETTER LOW
      TILDE, MODIFIER LETTER RAISED COLON, MODIFIER LETTER BEGIN HIGH TONE, MODIFIER LETTER END
      HIGH TONE, MODIFIER LETTER BEGIN LOW TONE, MODIFIER LETTER END LOW TONE, MODIFIER LETTER
      SHELF, MODIFIER LETTER OPEN SHELF, MODIFIER LETTER LOW LEFT ARROW"⟩,
  ⟨0x531, ["ARMENIAN CAPITAL LETTER"],
    "AYB, BEN, GIM, DA, ECH, ZA, EH, ET, TO, ZHE, INI, LIWN, XEH, CA, KEN, HO, JA, GHAD, CHEH,
      MEN, YI, NOW, SHA, VO, CHA, PEH, JHEH, RA, SEH, VEW, TIWN, REH, CO, YIWN, PIWR, KEH, OH,
      FEH"⟩,
  ⟨0x559, [""],
    "ARMENIAN MODIFIER LETTER LEFT HALF RING, ARMENIAN APOSTROPHE, ARMENIAN EMPHASIS MARK,
      ARMENIAN EXCLAMATION MARK, ARMENIAN COMMA, ARMENIAN QUESTION MARK, ARMENIAN ABBREVIATION
      MARK"⟩,
  ⟨0x560, ["ARMENIAN SMALL LETTER"],
    "TURNED AYB, AYB, BEN, GIM, DA, ECH, ZA, EH, ET, TO, ZHE, INI, LIWN, XEH, CA, KEN, HO, JA,
      GHAD, CHEH, MEN, YI, NOW, SHA, VO, CHA, PEH, JHEH, RA, SEH, VEW, TIWN, REH, CO, YIWN, PIWR,
      KEH, OH, FEH"⟩,
  ⟨0x587, [""],
    "ARMENIAN SMALL LIGATURE ECH YIWN, ARMENIAN SMALL LETTER YI WITH STROKE, ARMENIAN FULL STOP,
      ARMENIAN HYPHEN"⟩,
  ⟨0x58D, [""],
    "RIGHT-FACING ARMENIAN ETERNITY SIGN, LEFT-FACING ARMENIAN ETERNITY SIGN, ARMENIAN DRAM SIGN"⟩,
  ⟨0x5D0, ["HEBREW LETTER"],
    "ALEF, BET, GIMEL, DALET, HE, VAV, ZAYIN, HET, TET, YOD, FINAL KAF, KAF, LAMED, FINAL MEM,
      MEM, FINAL NUN, NUN, SAMEKH, AYIN, FINAL PE, PE, FINAL TSADI, TSADI, QOF, RESH, SHIN, TAV"⟩,
  ⟨0x5EF, [""], "HEBREW YOD TRIANGLE"⟩,
  ⟨0x5F0, ["HEBREW LIGATURE"], "YIDDISH DOUBLE VAV, YIDDISH VAV YOD, YIDDISH DOUBLE YOD"⟩,
  ⟨0x5F3, [""], "HEBREW PUNCTUATION GERESH, HEBREW PUNCTUATION GERSHAYIM"⟩,
  ⟨0x620, ["ARABIC LETTER"],
    "KASHMIRI YEH, HAMZA, ALEF WITH MADDA ABOVE, ALEF WITH HAMZA ABOVE, WAW WITH HAMZA ABOVE,
      ALEF WITH HAMZA BELOW, YEH WITH HAMZA ABOVE, ALEF, BEH, TEH MARBUTA, TEH, THEH, JEEM, HAH,
      KHAH, DAL, THAL, REH, ZAIN, SEEN, SHEEN, SAD, DAD, TAH, ZAH, AIN, GHAIN, KEHEH WITH TWO DOTS
      ABOVE, KEHEH WITH THREE DOTS BELOW, FARSI YEH WITH INVERTED V, FARSI YEH WITH TWO DOTS
      ABOVE, FARSI YEH WITH THREE DOTS ABOVE"⟩,
  ⟨0x640, [""], "ARABIC TATWEEL"⟩,
  ⟨0x641, ["ARABIC LETTER"], "FEH, QAF, KAF, LAM, MEEM, NOON, HEH, WAW, ALEF MAKSURA, YEH"⟩,
  ⟨0x64B, [""],
    "ARABIC FATHATAN, ARABIC DAMMATAN, ARABIC KASRATAN, ARABIC FATHA, ARABIC DAMMA, ARABIC
      KASRA, ARABIC SHADDA, ARABIC SUKUN"⟩,
  ⟨0x3041, ["HIRAGANA LETTER"],
    "SMALL A, A, SMALL I, I, SMALL U, U, SMALL E, E, SMALL O, O, KA, GA, KI, GI, KU, GU, KE, GE,
      KO, GO, SA, ZA, SI, ZI, SU, ZU, SE, ZE, SO, ZO, TA, DA, TI, DI, SMALL TU, TU, DU, TE, DE,
      TO, DO, NA, NI, NU, NE, NO, HA, BA, PA, HI, BI, PI, HU, BU, PU, HE, BE, PE, HO, BO, PO, MA,
      MI, MU, ME, MO, SMALL YA, YA, SMALL YU, YU, SMALL YO, YO, RA, RI, RU, RE, RO, SMALL WA, WA,
      WI, WE, WO, N, VU, SMALL KA, SMALL KE"⟩,
  ⟨0x3099, [""],
    "COMBINING KATAKANA-HIRAGANA VOICED SOUND MARK, COMBINING KATAKANA-HIRAGANA SEMI-VOICED
      SOUND MARK, KATAKANA-HIRAGANA VOICED SOUND MARK, KATAKANA-HIRAGANA SEMI-VOICED SOUND MARK,
      HIRAGANA ITERATION MARK, HIRAGANA VOICED ITERATION MARK, HIRAGANA DIGRAPH YORI,
      KATAKANA-HIRAGANA DOUBLE HYPHEN"⟩,
  ⟨0x30A1, ["KATAKANA LETTER"],
    "SMALL A, A, SMALL I, I, SMALL U, U, SMALL E, E, SMALL O, O, KA, GA, KI, GI, KU, GU, KE, GE,
      KO, GO, SA, ZA, SI, ZI, SU, ZU, SE, ZE, SO, ZO, TA, DA, TI, DI, SMALL TU, TU, DU, TE, DE,
      TO, DO, NA, NI, NU, NE, NO, HA, BA, PA, HI, BI, PI, HU, BU, PU, HE, BE, PE, HO, BO, PO, MA,
      MI, MU, ME, MO, SMALL YA, YA, SMALL YU, YU, SMALL YO, YO, RA, RI, RU, RE, RO, SMALL WA, WA,
      WI, WE, WO, N, VU, SMALL KA, SMALL KE, VA, VI, VE, VO"⟩,
  ⟨0x30FB, [""],
    "KATAKANA MIDDLE DOT, KATAKANA-HIRAGANA PROLONGED SOUND MARK, KATAKANA ITERATION MARK,
      KATAKANA VOICED ITERATION MARK, KATAKANA DIGRAPH KOTO"⟩,
  ⟨0x1F00, ["GREEK SMALL LETTER"],
    "ALPHA WITH PSILI, ALPHA WITH DASIA, ALPHA WITH PSILI AND VARIA, ALPHA WITH DASIA AND VARIA,
      ALPHA WITH PSILI AND OXIA, ALPHA WITH DASIA AND OXIA, ALPHA WITH PSILI AND PERISPOMENI,
      ALPHA WITH DASIA AND PERISPOMENI"⟩,
  ⟨0x1F08, ["GREEK CAPITAL LETTER"],
    "ALPHA WITH PSILI, ALPHA WITH DASIA, ALPHA WITH PSILI AND VARIA, ALPHA WITH DASIA AND VARIA,
      ALPHA WITH PSILI AND OXIA, ALPHA WITH DASIA AND OXIA, ALPHA WITH PSILI AND PERISPOMENI,
      ALPHA WITH DASIA AND PERISPOMENI"⟩,
  ⟨0x1F10, ["GREEK SMALL LETTER"],
    "EPSILON WITH PSILI, EPSILON WITH DASIA, EPSILON WITH PSILI AND VARIA, EPSILON WITH DASIA
      AND VARIA, EPSILON WITH PSILI AND OXIA, EPSILON WITH DASIA AND OXIA"⟩,
  ⟨0x1F18, ["GREEK CAPITAL LETTER"],
    "EPSILON WITH PSILI, EPSILON WITH DASIA, EPSILON WITH PSILI AND VARIA, EPSILON WITH DASIA
      AND VARIA, EPSILON WITH PSILI AND OXIA, EPSILON WITH DASIA AND OXIA"⟩,
  ⟨0x1F20, ["GREEK SMALL LETTER"],
    "ETA WITH PSILI, ETA WITH DASIA, ETA WITH PSILI AND VARIA, ETA WITH DASIA AND VARIA, ETA
      WITH PSILI AND OXIA, ETA WITH DASIA AND OXIA, ETA WITH PSILI AND PERISPOMENI, ETA WITH DASIA
      AND PERISPOMENI"⟩,
  ⟨0x1F28, ["GREEK CAPITAL LETTER"],
    "ETA WITH PSILI, ETA WITH DASIA, ETA WITH PSILI AND VARIA, ETA WITH DASIA AND VARIA, ETA
      WITH PSILI AND OXIA, ETA WITH DASIA AND OXIA, ETA WITH PSILI AND PERISPOMENI, ETA WITH DASIA
      AND PERISPOMENI"⟩,
  ⟨0x1F30, ["GREEK SMALL LETTER"],
    "IOTA WITH PSILI, IOTA WITH DASIA, IOTA WITH PSILI AND VARIA, IOTA WITH DASIA AND VARIA,
      IOTA WITH PSILI AND OXIA, IOTA WITH DASIA AND OXIA, IOTA WITH PSILI AND PERISPOMENI, IOTA
      WITH DASIA AND PERISPOMENI"⟩,
  ⟨0x1F38, ["GREEK CAPITAL LETTER"],
    "IOTA WITH PSILI, IOTA WITH DASIA, IOTA WITH PSILI AND VARIA, IOTA WITH DASIA AND VARIA,
      IOTA WITH PSILI AND OXIA, IOTA WITH DASIA AND OXIA, IOTA WITH PSILI AND PERISPOMENI, IOTA
      WITH DASIA AND PERISPOMENI"⟩,
  ⟨0x1F40, ["GREEK SMALL LETTER"],
    "OMICRON WITH PSILI, OMICRON WITH DASIA, OMICRON WITH PSILI AND VARIA, OMICRON WITH DASIA
      AND VARIA, OMICRON WITH PSILI AND OXIA, OMICRON WITH DASIA AND OXIA"⟩,
  ⟨0x1F48, ["GREEK CAPITAL LETTER"],
    "OMICRON WITH PSILI, OMICRON WITH DASIA, OMICRON WITH PSILI AND VARIA, OMICRON WITH DASIA
      AND VARIA, OMICRON WITH PSILI AND OXIA, OMICRON WITH DASIA AND OXIA"⟩,
  ⟨0x1F50, ["GREEK SMALL LETTER"],
    "UPSILON WITH PSILI, UPSILON WITH DASIA, UPSILON WITH PSILI AND VARIA, UPSILON WITH DASIA
      AND VARIA, UPSILON WITH PSILI AND OXIA, UPSILON WITH DASIA AND OXIA, UPSILON WITH PSILI AND
      PERISPOMENI, UPSILON WITH DASIA AND PERISPOMENI"⟩,
  ⟨0x1F59, [""], "GREEK CAPITAL LETTER UPSILON WITH DASIA"⟩,
  ⟨0x1F5B, [""], "GREEK CAPITAL LETTER UPSILON WITH DASIA AND VARIA"⟩,
  ⟨0x1F5D, [""], "GREEK CAPITAL LETTER UPSILON WITH DASIA AND OXIA"⟩,
  ⟨0x1F5F, [""], "GREEK CAPITAL LETTER UPSILON WITH DASIA AND PERISPOMENI"⟩,
  ⟨0x1F60, ["GREEK SMALL LETTER"],
    "OMEGA WITH PSILI, OMEGA WITH DASIA, OMEGA WITH PSILI AND VARIA, OMEGA WITH DASIA AND VARIA,
      OMEGA WITH PSILI AND OXIA, OMEGA WITH DASIA AND OXIA, OMEGA WITH PSILI AND PERISPOMENI,
      OMEGA WITH DASIA AND PERISPOMENI"⟩,
  ⟨0x1F68, ["GREEK CAPITAL LETTER"],
    "OMEGA WITH PSILI, OMEGA WITH DASIA, OMEGA WITH PSILI AND VARIA, OMEGA WITH DASIA AND VARIA,
      OMEGA WITH PSILI AND OXIA, OMEGA WITH DASIA AND OXIA, OMEGA WITH PSILI AND PERISPOMENI,
      OMEGA WITH DASIA AND PERISPOMENI"⟩,
  ⟨0x1F70, ["GREEK SMALL LETTER"],
    "ALPHA WITH VARIA, ALPHA WITH OXIA, EPSILON WITH VARIA, EPSILON WITH OXIA, ETA WITH VARIA,
      ETA WITH OXIA, IOTA WITH VARIA, IOTA WITH OXIA, OMICRON WITH VARIA, OMICRON WITH OXIA,
      UPSILON WITH VARIA, UPSILON WITH OXIA, OMEGA WITH VARIA, OMEGA WITH OXIA"⟩,
  ⟨0x1F80, ["GREEK SMALL LETTER"],
    "ALPHA WITH PSILI AND YPOGEGRAMMENI, ALPHA WITH DASIA AND YPOGEGRAMMENI, ALPHA WITH PSILI
      AND VARIA AND YPOGEGRAMMENI, ALPHA WITH DASIA AND VARIA AND YPOGEGRAMMENI, ALPHA WITH PSILI
      AND OXIA AND YPOGEGRAMMENI, ALPHA WITH DASIA AND OXIA AND YPOGEGRAMMENI, ALPHA WITH PSILI
      AND PERISPOMENI AND YPOGEGRAMMENI, ALPHA WITH DASIA AND PERISPOMENI AND YPOGEGRAMMENI"⟩,
  ⟨0x1F88, ["GREEK CAPITAL LETTER"],
    "ALPHA WITH PSILI AND PROSGEGRAMMENI, ALPHA WITH DASIA AND PROSGEGRAMMENI, ALPHA WITH PSILI
      AND VARIA AND PROSGEGRAMMENI, ALPHA WITH DASIA AND VARIA AND PROSGEGRAMMENI, ALPHA WITH
      PSILI AND OXIA AND PROSGEGRAMMENI, ALPHA WITH DASIA AND OXIA AND PROSGEGRAMMENI, ALPHA WITH
      PSILI AND PERISPOMENI AND PROSGEGRAMMENI, ALPHA WITH DASIA AND PERISPOMENI AND
      PROSGEGRAMMENI"⟩,
  ⟨0x1F90, ["GREEK SMALL LETTER"],
    "ETA WITH PSILI AND YPOGEGRAMMENI, ETA WITH DASIA AND YPOGEGRAMMENI, ETA WITH PSILI AND
      VARIA AND YPOGEGRAMMENI, ETA WITH DASIA AND VARIA AND YPOGEGRAMMENI, ETA WITH PSILI AND OXIA
      AND YPOGEGRAMMENI, ETA WITH DASIA AND OXIA AND YPOGEGRAMMENI, ETA WITH PSILI AND PERISPOMENI
      AND YPOGEGRAMMENI, ETA WITH DASIA AND PERISPOMENI AND YPOGEGRAMMENI"⟩,
  ⟨0x1F98, ["GREEK CAPITAL LETTER"],
    "ETA WITH PSILI AND PROSGEGRAMMENI, ETA WITH DASIA AND PROSGEGRAMMENI, ETA WITH PSILI AND
      VARIA AND PROSGEGRAMMENI, ETA WITH DASIA AND VARIA AND PROSGEGRAMMENI, ETA WITH PSILI AND
      OXIA AND PROSGEGRAMMENI, ETA WITH DASIA AND OXIA AND PROSGEGRAMMENI, ETA WITH PSILI AND
      PERISPOMENI AND PROSGEGRAMMENI, ETA WITH DASIA AND PERISPOMENI AND PROSGEGRAMMENI"⟩,
  ⟨0x1FA0, ["GREEK SMALL LETTER"],
    "OMEGA WITH PSILI AND YPOGEGRAMMENI, OMEGA WITH DASIA AND YPOGEGRAMMENI, OMEGA WITH PSILI
      AND VARIA AND YPOGEGRAMMENI, OMEGA WITH DASIA AND VARIA AND YPOGEGRAMMENI, OMEGA WITH PSILI
      AND OXIA AND YPOGEGRAMMENI, OMEGA WITH DASIA AND OXIA AND YPOGEGRAMMENI, OMEGA WITH PSILI
      AND PERISPOMENI AND YPOGEGRAMMENI, OMEGA WITH DASIA AND PERISPOMENI AND YPOGEGRAMMENI"⟩,
  ⟨0x1FA8, ["GREEK CAPITAL LETTER"],
    "OMEGA WITH PSILI AND PROSGEGRAMMENI, OMEGA WITH DASIA AND PROSGEGRAMMENI, OMEGA WITH PSILI
      AND VARIA AND PROSGEGRAMMENI, OMEGA WITH DASIA AND VARIA AND PROSGEGRAMMENI, OMEGA WITH
      PSILI AND OXIA AND PROSGEGRAMMENI, OMEGA WITH DASIA AND OXIA AND PROSGEGRAMMENI, OMEGA WITH
      PSILI AND PERISPOMENI AND PROSGEGRAMMENI, OMEGA WITH DASIA AND PERISPOMENI AND
      PROSGEGRAMMENI"⟩,
  ⟨0x1FB0, ["GREEK SMALL LETTER"],
    "ALPHA WITH VRACHY, ALPHA WITH MACRON, ALPHA WITH VARIA AND YPOGEGRAMMENI, ALPHA WITH
      YPOGEGRAMMENI, ALPHA WITH OXIA AND YPOGEGRAMMENI"⟩,
  ⟨0x1FB6, [""],
    "GREEK SMALL LETTER ALPHA WITH PERISPOMENI, GREEK SMALL LETTER ALPHA WITH PERISPOMENI AND
      YPOGEGRAMMENI"⟩,
  ⟨0x1FB8, ["GREEK CAPITAL LETTER"],
    "ALPHA WITH VRACHY, ALPHA WITH MACRON, ALPHA WITH VARIA, ALPHA WITH OXIA, ALPHA WITH
      PROSGEGRAMMENI"⟩,
  ⟨0x1FBD, [""],
    "GREEK KORONIS, GREEK PROSGEGRAMMENI, GREEK PSILI, GREEK PERISPOMENI, GREEK DIALYTIKA AND
      PERISPOMENI"⟩,
  ⟨0x1FC2, ["GREEK SMALL LETTER"],
    "ETA WITH VARIA AND YPOGEGRAMMENI, ETA WITH YPOGEGRAMMENI, ETA WITH OXIA AND YPOGEGRAMMENI"⟩,
  ⟨0x1FC6, [""],
    "GREEK SMALL LETTER ETA WITH PERISPOMENI, GREEK SMALL LETTER ETA WITH PERISPOMENI AND
      YPOGEGRAMMENI"⟩,
  ⟨0x1FC8, ["GREEK CAPITAL LETTER"],
    "EPSILON WITH VARIA, EPSILON WITH OXIA, ETA WITH VARIA, ETA WITH OXIA, ETA WITH
      PROSGEGRAMMENI"⟩,
  ⟨0x1FCD, [""], "GREEK PSILI AND VARIA, GREEK PSILI AND OXIA, GREEK PSILI AND PERISPOMENI"⟩,
  ⟨0x1FD0, ["GREEK SMALL LETTER"],
    "IOTA WITH VRACHY, IOTA WITH MACRON, IOTA WITH DIALYTIKA AND VARIA, IOTA WITH DIALYTIKA AND
      OXIA"⟩,
  ⟨0x1FD6, [""],
    "GREEK SMALL LETTER IOTA WITH PERISPOMENI, GREEK SMALL LETTER IOTA WITH DIALYTIKA AND
      PERISPOMENI"⟩,
  ⟨0x1FD8, ["GREEK CAPITAL LETTER"],
    "IOTA WITH VRACHY, IOTA WITH MACRON, IOTA WITH VARIA, IOTA WITH OXIA"⟩,
  ⟨0x1FDD, [""], "GREEK DASIA AND VARIA, GREEK DASIA AND OXIA, GREEK DASIA AND PERISPOMENI"⟩,
  ⟨0x1FE0, ["GREEK SMALL LETTER"],
    "UPSILON WITH VRACHY, UPSILON WITH MACRON, UPSILON WITH DIALYTIKA AND VARIA, UPSILON WITH
      DIALYTIKA AND OXIA, RHO WITH PSILI, RHO WITH DASIA, UPSILON WITH PERISPOMENI, UPSILON WITH
      DIALYTIKA AND PERISPOMENI"⟩,
  ⟨0x1FE8, ["GREEK CAPITAL LETTER"],
    "UPSILON WITH VRACHY, UPSILON WITH MACRON, UPSILON WITH VARIA, UPSILON WITH OXIA, RHO WITH
      DASIA"⟩,
  ⟨0x1FED, [""], "GREEK DIALYTIKA AND VARIA, GREEK DIALYTIKA AND OXIA, GREEK VARIA"⟩,
  ⟨0x1FF2, ["GREEK SMALL LETTER"],
    "OMEGA WITH VARIA AND YPOGEGRAMMENI, OMEGA WITH YPOGEGRAMMENI, OMEGA WITH OXIA AND
      YPOGEGRAMMENI"⟩,
  ⟨0x1FF6, [""],
    "GREEK SMALL LETTER OMEGA WITH PERISPOMENI, GREEK SMALL LETTER OMEGA WITH PERISPOMENI AND
      YPOGEGRAMMENI"⟩,
  ⟨0x1FF8, ["GREEK CAPITAL LETTER"],
    "OMICRON WITH VARIA, OMICRON WITH OXIA, OMEGA WITH VARIA, OMEGA WITH OXIA, OMEGA WITH
      PROSGEGRAMMENI"⟩,
  ⟨0x1FFD, [""], "GREEK OXIA, GREEK DASIA"⟩,
  ⟨0x41, ["LATIN CAPITAL LETTER"],
    "A, B, C, D, E, F, G, H, I, J, K, L, M, N, O, P, Q, R, S, T, U, V, W, X, Y, Z"⟩,
  ⟨0x61, ["LATIN SMALL LETTER"],
    "A, B, C, D, E, F, G, H, I, J, K, L, M, N, O, P, Q, R, S, T, U, V, W, X, Y, Z"⟩,
  ⟨0xC0, ["LATIN CAPITAL LETTER"],
    "A WITH GRAVE, A WITH ACUTE, A WITH CIRCUMFLEX, A WITH TILDE, A WITH DIAERESIS, A WITH RING
      ABOVE, AE, C WITH CEDILLA, E WITH GRAVE, E WITH ACUTE, E WITH CIRCUMFLEX, E WITH DIAERESIS,
      I WITH GRAVE, I WITH ACUTE, I WITH CIRCUMFLEX, I WITH DIAERESIS, ETH, N WITH TILDE, O WITH
      GRAVE, O WITH ACUTE, O WITH CIRCUMFLEX, O WITH TILDE, O WITH DIAERESIS"⟩,
  ⟨0xD8, ["LATIN CAPITAL LETTER"],
    "O WITH STROKE, U WITH GRAVE, U WITH ACUTE, U WITH CIRCUMFLEX, U WITH DIAERESIS, Y WITH
      ACUTE, THORN"⟩,
  ⟨0xDF, ["LATIN SMALL LETTER"],
    "SHARP S, A WITH GRAVE, A WITH ACUTE, A WITH CIRCUMFLEX, A WITH TILDE, A WITH DIAERESIS, A
      WITH RING ABOVE, AE, C WITH CEDILLA, E WITH GRAVE, E WITH ACUTE, E WITH CIRCUMFLEX, E WITH
      DIAERESIS, I WITH GRAVE, I WITH ACUTE, I WITH CIRCUMFLEX, I WITH DIAERESIS, ETH, N WITH
      TILDE, O WITH GRAVE, O WITH ACUTE, O WITH CIRCUMFLEX, O WITH TILDE, O WITH DIAERESIS"⟩,
  ⟨0xF8, ["LATIN SMALL LETTER"],
    "O WITH STROKE, U WITH GRAVE, U WITH ACUTE, U WITH CIRCUMFLEX, U WITH DIAERESIS, Y WITH
      ACUTE, THORN, Y WITH DIAERESIS"⟩,
  ⟨0x100, ["LATIN CAPITAL LETTER", "LATIN SMALL LETTER"],
    "A WITH MACRON, A WITH BREVE, A WITH OGONEK, C WITH ACUTE, C WITH CIRCUMFLEX, C WITH DOT
      ABOVE, C WITH CARON, D WITH CARON, D WITH STROKE, E WITH MACRON, E WITH BREVE, E WITH DOT
      ABOVE, E WITH OGONEK, E WITH CARON, G WITH CIRCUMFLEX, G WITH BREVE, G WITH DOT ABOVE, G
      WITH CEDILLA, H WITH CIRCUMFLEX, H WITH STROKE, I WITH TILDE, I WITH MACRON, I WITH BREVE, I
      WITH OGONEK"⟩,
  ⟨0x130, [""],
    "LATIN CAPITAL LETTER I WITH DOT ABOVE, LATIN SMALL LETTER DOTLESS I, LATIN CAPITAL LIGATURE
      IJ, LATIN SMALL LIGATURE IJ"⟩,
  ⟨0x134, ["LATIN CAPITAL LETTER", "LATIN SMALL LETTER"], "J WITH CIRCUMFLEX, K WITH CEDILLA"⟩,
  ⟨0x138, [""], "LATIN SMALL LETTER KRA"⟩,
  ⟨0x139, ["LATIN CAPITAL LETTER", "LATIN SMALL LETTER"],
    "L WITH ACUTE, L WITH CEDILLA, L WITH CARON, L WITH MIDDLE DOT, L WITH STROKE, N WITH ACUTE,
      N WITH CEDILLA, N WITH CARON"⟩,
  ⟨0x149, [""], "LATIN SMALL LETTER N PRECEDED BY APOSTROPHE"⟩,
  ⟨0x14A, ["LATIN CAPITAL LETTER", "LATIN SMALL LETTER"],
    "ENG, O WITH MACRON, O WITH BREVE, O WITH DOUBLE ACUTE"⟩,
  ⟨0x152, [""], "LATIN CAPITAL LIGATURE OE, LATIN SMALL LIGATURE OE"⟩,
  ⟨0x154, ["LATIN CAPITAL LETTER", "LATIN SMALL LETTER"],
    "R WITH ACUTE, R WITH CEDILLA, R WITH CARON, S WITH ACUTE, S WITH CIRCUMFLEX, S WITH
      CEDILLA, S WITH CARON, T WITH CEDILLA, T WITH CARON, T WITH STROKE, U WITH TILDE, U WITH
      MACRON, U WITH BREVE, U WITH RING ABOVE, U WITH DOUBLE ACUTE, U WITH OGONEK, W WITH
      CIRCUMFLEX, Y WITH CIRCUMFLEX"⟩,
  ⟨0x178, [""], "LATIN CAPITAL LETTER Y WITH DIAERESIS"⟩,
  ⟨0x179, ["LATIN CAPITAL LETTER", "LATIN SMALL LETTER"],
    "Z WITH ACUTE, Z WITH DOT ABOVE, Z WITH CARON"⟩,
  ⟨0x17F, [""],
    "LATIN SMALL LETTER LONG S, LATIN SMALL LETTER B WITH STROKE, LATIN CAPITAL LETTER B WITH
      HOOK"⟩,
  ⟨0x182, ["LATIN CAPITAL LETTER", "LATIN SMALL LETTER"], "B WITH TOPBAR, TONE SIX"⟩,
  ⟨0x186, [""],
    "LATIN CAPITAL LETTER OPEN O, LATIN CAPITAL LETTER C WITH HOOK, LATIN SMALL LETTER C WITH
      HOOK"⟩,
  ⟨0x189, ["LATIN CAPITAL LETTER"], "AFRICAN D, D WITH HOOK, D WITH TOPBAR"⟩,
  ⟨0x18C, [""], "LATIN SMALL LETTER D WITH TOPBAR, LATIN SMALL LETTER TURNED DELTA"⟩,
  ⟨0x18E, ["LATIN CAPITAL LETTER"], "REVERSED E, SCHWA, OPEN E, F WITH HOOK"⟩,
  ⟨0x192, [""],
    "LATIN SMALL LETTER F WITH HOOK, LATIN CAPITAL LETTER G WITH HOOK, LATIN CAPITAL LETTER
      GAMMA, LATIN SMALL LETTER HV"⟩,
  ⟨0x196, ["LATIN CAPITAL LETTER"], "IOTA, I WITH STROKE, K WITH HOOK"⟩,
  ⟨0x199, ["LATIN SMALL LETTER"], "K WITH HOOK, L WITH BAR, LAMBDA WITH STROKE"⟩,
  ⟨0x19C, [""],
    "LATIN CAPITAL LETTER TURNED M, LATIN CAPITAL LETTER N WITH LEFT HOOK, LATIN SMALL LETTER N
      WITH LONG RIGHT LEG, LATIN CAPITAL LETTER O WITH MIDDLE TILDE"⟩,
  ⟨0x1A0, ["LATIN CAPITAL LETTER", "LATIN SMALL LETTER"], "O WITH HORN, OI, P WITH HOOK"⟩,
  ⟨0x1A6, [""],
    "LATIN LETTER YR, LATIN CAPITAL LETTER TONE TWO, LATIN SMALL LETTER TONE TWO, LATIN CAPITAL
      LETTER ESH, LATIN LETTER REVERSED ESH LOOP, LATIN SMALL LETTER T WITH PALATAL HOOK, LATIN
      CAPITAL LETTER T WITH HOOK, LATIN SMALL LETTER T WITH HOOK, LATIN CAPITAL LETTER T WITH
      RETROFLEX HOOK, LATIN CAPITAL LETTER U WITH HORN, LATIN SMALL LETTER U WITH HORN, LATIN
      CAPITAL LETTER UPSILON, LATIN CAPITAL LETTER V WITH HOOK"⟩,
  ⟨0x1B3, ["LATIN CAPITAL LETTER", "LATIN SMALL LETTER"], "Y WITH HOOK, Z WITH STROKE"⟩,
  ⟨0x1B7, [""],
    "LATIN CAPITAL LETTER EZH, LATIN CAPITAL LETTER EZH REVERSED, LATIN SMALL LETTER EZH
      REVERSED, LATIN SMALL LETTER EZH WITH TAIL, LATIN LETTER TWO WITH STROKE, LATIN CAPITAL
      LETTER TONE FIVE, LATIN SMALL LETTER TONE FIVE"⟩,
  ⟨0x1BE, ["LATIN LETTER"],
    "INVERTED GLOTTAL STOP WITH STROKE, WYNN, DENTAL CLICK, LATERAL CLICK, ALVEOLAR CLICK,
      RETROFLEX CLICK"⟩,
  ⟨0x1C4, [""],
    "LATIN CAPITAL LETTER DZ WITH CARON, LATIN CAPITAL LETTER D WITH SMALL LETTER Z WITH CARON,
      LATIN SMALL LETTER DZ WITH CARON, LATIN CAPITAL LETTER LJ, LATIN CAPITAL LETTER L WITH SMALL
      LETTER J, LATIN SMALL LETTER LJ, LATIN CAPITAL LETTER NJ, LATIN CAPITAL LETTER N WITH SMALL
      LETTER J, LATIN SMALL LETTER NJ"⟩,
  ⟨0x1CD, ["LATIN CAPITAL LETTER", "LATIN SMALL LETTER"],
    "A WITH CARON, I WITH CARON, O WITH CARON, U WITH CARON, U WITH DIAERESIS AND MACRON, U WITH
      DIAERESIS AND ACUTE, U WITH DIAERESIS AND CARON, U WITH DIAERESIS AND GRAVE"⟩,
  ⟨0x1DD, [""], "LATIN SMALL LETTER TURNED E"⟩,
  ⟨0x1DE, ["LATIN CAPITAL LETTER", "LATIN SMALL LETTER"],
    "A WITH DIAERESIS AND MACRON, A WITH DOT ABOVE AND MACRON, AE WITH MACRON, G WITH STROKE, G
      WITH CARON, K WITH CARON, O WITH OGONEK, O WITH OGONEK AND MACRON, EZH WITH CARON"⟩,
  ⟨0x1F0, [""],
    "LATIN SMALL LETTER J WITH CARON, LATIN CAPITAL LETTER DZ, LATIN CAPITAL LETTER D WITH SMALL
      LETTER Z, LATIN SMALL LETTER DZ, LATIN CAPITAL LETTER G WITH ACUTE, LATIN SMALL LETTER G
      WITH ACUTE, LATIN CAPITAL LETTER HWAIR, LATIN CAPITAL LETTER WYNN"⟩,
  ⟨0x1F8, ["LATIN CAPITAL LETTER", "LATIN SMALL LETTER"],
    "N WITH GRAVE, A WITH RING ABOVE AND ACUTE, AE WITH ACUTE, O WITH STROKE AND ACUTE, A WITH
      DOUBLE GRAVE, A WITH INVERTED BREVE, E WITH DOUBLE GRAVE, E WITH INVERTED BREVE, I WITH
      DOUBLE GRAVE, I WITH INVERTED BREVE, O WITH DOUBLE GRAVE, O WITH INVERTED BREVE, R WITH
      DOUBLE GRAVE, R WITH INVERTED BREVE, U WITH DOUBLE GRAVE, U WITH INVERTED BREVE, S WITH
      COMMA BELOW, T WITH COMMA BELOW, YOGH, H WITH CARON"⟩,
  ⟨0x220, [""], "LATIN CAPITAL LETTER N WITH LONG RIGHT LEG, LATIN SMALL LETTER D WITH CURL"⟩,
  ⟨0x222, ["LATIN CAPITAL LETTER", "LATIN SMALL LETTER"],
    "OU, Z WITH HOOK, A WITH DOT ABOVE, E WITH CEDILLA, O WITH DIAERESIS AND MACRON, O WITH
      TILDE AND MACRON, O WITH DOT ABOVE, O WITH DOT ABOVE AND MACRON, Y WITH MACRON"⟩,
  ⟨0x234, ["LATIN SMALL LETTER"],
    "L WITH CURL, N WITH CURL, T WITH CURL, DOTLESS J, DB DIGRAPH, QP DIGRAPH"⟩,
  ⟨0x23A, [""],
    "LATIN CAPITAL LETTER A WITH STROKE, LATIN CAPITAL LETTER C WITH STROKE, LATIN SMALL LETTER
      C WITH STROKE, LATIN CAPITAL LETTER L WITH BAR, LATIN CAPITAL LETTER T WITH DIAGONAL STROKE,
      LATIN SMALL LETTER S WITH SWASH TAIL, LATIN SMALL LETTER Z WITH SWASH TAIL, LATIN CAPITAL
      LETTER GLOTTAL STOP, LATIN SMALL LETTER GLOTTAL STOP"⟩,
  ⟨0x243, ["LATIN CAPITAL LETTER"], "B WITH STROKE, U BAR, TURNED V"⟩,
  ⟨0x246, ["LATIN CAPITAL LETTER", "LATIN SMALL LETTER"], "E WITH STROKE, J WITH STROKE"⟩,
  ⟨0x24A, [""],
    "LATIN CAPITAL LETTER SMALL Q WITH HOOK TAIL, LATIN SMALL LETTER Q WITH HOOK TAIL"⟩,
  ⟨0x24C, ["LATIN CAPITAL LETTER", "LATIN SMALL LETTER"], "R WITH STROKE, Y WITH STROKE"⟩,
  ⟨0x300, ["COMBINING"],
    "GRAVE ACCENT, ACUTE ACCENT, CIRCUMFLEX ACCENT, TILDE, MACRON, OVERLINE, BREVE, DOT ABOVE,
      DIAERESIS, HOOK ABOVE, RING ABOVE, DOUBLE ACUTE ACCENT, CARON, VERTICAL LINE ABOVE, DOUBLE
      VERTICAL LINE ABOVE, DOUBLE GRAVE ACCENT, CANDRABINDU, INVERTED BREVE, TURNED COMMA ABOVE,
      COMMA ABOVE, REVERSED COMMA ABOVE, COMMA ABOVE RIGHT, GRAVE ACCENT BELOW, ACUTE ACCENT
      BELOW, LEFT TACK BELOW, RIGHT TACK BELOW, LEFT ANGLE ABOVE, HORN, LEFT HALF RING BELOW, UP
      TACK BELOW, DOWN TACK BELOW, PLUS SIGN BELOW, MINUS SIGN BELOW, PALATALIZED HOOK BELOW,
      RETROFLEX HOOK BELOW, DOT BELOW, DIAERESIS BELOW, RING BELOW, COMMA BELOW, CEDILLA, OGONEK,
      VERTICAL LINE BELOW, BRIDGE BELOW, INVERTED DOUBLE ARCH BELOW, CARON BELOW, CIRCUMFLEX
      ACCENT BELOW, BREVE BELOW, INVERTED BREVE BELOW, TILDE BELOW, MACRON BELOW, LOW LINE, DOUBLE
      LOW LINE, TILDE OVERLAY, SHORT STROKE OVERLAY, LONG STROKE OVERLAY, SHORT SOLIDUS OVERLAY,
      LONG SOLIDUS OVERLAY, RIGHT HALF RING BELOW, INVERTED BRIDGE BELOW, SQUARE BELOW, SEAGULL
      BELOW, X ABOVE, VERTICAL TILDE, DOUBLE OVERLINE, GRAVE TONE MARK, ACUTE TONE MARK, GREEK
      PERISPOMENI, GREEK KORONIS, GREEK DIALYTIKA TONOS, GREEK YPOGEGRAMMENI, BRIDGE ABOVE, EQUALS
      SIGN BELOW, DOUBLE VERTICAL LINE BELOW, LEFT ANGLE BELOW, NOT TILDE ABOVE, HOMOTHETIC ABOVE,
      ALMOST EQUAL TO ABOVE, LEFT RIGHT ARROW BELOW, UPWARDS ARROW BELOW, GRAPHEME JOINER, RIGHT
      ARROWHEAD ABOVE, LEFT HALF RING ABOVE, FERMATA, X BELOW, LEFT ARROWHEAD BELOW, RIGHT
      ARROWHEAD BELOW, RIGHT ARROWHEAD AND UP ARROWHEAD BELOW, RIGHT HALF RING ABOVE, DOT ABOVE
      RIGHT, ASTERISK BELOW, DOUBLE RING BELOW, ZIGZAG ABOVE, DOUBLE BREVE BELOW, DOUBLE BREVE,
      DOUBLE MACRON, DOUBLE MACRON BELOW, DOUBLE TILDE, DOUBLE INVERTED BREVE, DOUBLE RIGHTWARDS
      ARROW BELOW, LATIN SMALL LETTER A, LATIN SMALL LETTER E, LATIN SMALL LETTER I, LATIN SMALL
      LETTER O, LATIN SMALL LETTER U, LATIN SMALL LETTER C, LATIN SMALL LETTER D, LATIN SMALL
      LETTER H, LATIN SMALL LETTER M, LATIN SMALL LETTER R, LATIN SMALL LETTER T, LATIN SMALL
      LETTER V, LATIN SMALL LETTER X"⟩,
  ⟨0x370, ["GREEK CAPITAL LETTER", "GREEK SMALL LETTER"], "HETA, ARCHAIC SAMPI"⟩,
  ⟨0x374, [""],
    "GREEK NUMERAL SIGN, GREEK LOWER NUMERAL SIGN, GREEK CAPITAL LETTER PAMPHYLIAN DIGAMMA,
      GREEK SMALL LETTER PAMPHYLIAN DIGAMMA"⟩,
  ⟨0x37A, [""],
    "GREEK YPOGEGRAMMENI, GREEK SMALL REVERSED LUNATE SIGMA SYMBOL, GREEK SMALL DOTTED LUNATE
      SIGMA SYMBOL, GREEK SMALL REVERSED DOTTED LUNATE SIGMA SYMBOL, GREEK QUESTION MARK, GREEK
      CAPITAL LETTER YOT"⟩,
  ⟨0x384, [""],
    "GREEK TONOS, GREEK DIALYTIKA TONOS, GREEK CAPITAL LETTER ALPHA WITH TONOS, GREEK ANO TELEIA"⟩,
  ⟨0x388, ["GREEK CAPITAL LETTER"], "EPSILON WITH TONOS, ETA WITH TONOS, IOTA WITH TONOS"⟩,
  ⟨0x38C, [""], "GREEK CAPITAL LETTER OMICRON WITH TONOS"⟩,
  ⟨0x38E, [""],
    "GREEK CAPITAL LETTER UPSILON WITH TONOS, GREEK CAPITAL LETTER OMEGA WITH TONOS, GREEK SMALL
      LETTER IOTA WITH DIALYTIKA AND TONOS"⟩,
  ⟨0x391, ["GREEK CAPITAL LETTER"],
    "ALPHA, BETA, GAMMA, DELTA, EPSILON, ZETA, ETA, THETA, IOTA, KAPPA, LAMDA, MU, NU, XI,
      OMICRON, PI, RHO"⟩,
  ⟨0x3A3, ["GREEK CAPITAL LETTER"],
    "SIGMA, TAU, UPSILON, PHI, CHI, PSI, OMEGA, IOTA WITH DIALYTIKA, UPSILON WITH DIALYTIKA"⟩,
  ⟨0x3AC, ["GREEK SMALL LETTER"],
    "ALPHA WITH TONOS, EPSILON WITH TONOS, ETA WITH TONOS, IOTA WITH TONOS, UPSILON WITH
      DIALYTIKA AND TONOS, ALPHA, BETA, GAMMA, DELTA, EPSILON, ZETA, ETA, THETA, IOTA, KAPPA,
      LAMDA, MU, NU, XI, OMICRON, PI, RHO, FINAL SIGMA, SIGMA, TAU, UPSILON, PHI, CHI, PSI, OMEGA,
      IOTA WITH DIALYTIKA, UPSILON WITH DIALYTIKA, OMICRON WITH TONOS, UPSILON WITH TONOS, OMEGA
      WITH TONOS"⟩,
  ⟨0x3CF, [""],
    "GREEK CAPITAL KAI SYMBOL, GREEK BETA SYMBOL, GREEK THETA SYMBOL, GREEK UPSILON WITH HOOK
      SYMBOL, GREEK UPSILON WITH ACUTE AND HOOK SYMBOL, GREEK UPSILON WITH DIAERESIS AND HOOK
      SYMBOL, GREEK PHI SYMBOL, GREEK PI SYMBOL, GREEK KAI SYMBOL, GREEK LETTER ARCHAIC KOPPA,
      GREEK SMALL LETTER ARCHAIC KOPPA, GREEK LETTER STIGMA, GREEK SMALL LETTER STIGMA, GREEK
      LETTER DIGAMMA, GREEK SMALL LETTER DIGAMMA, GREEK LETTER KOPPA, GREEK SMALL LETTER KOPPA,
      GREEK LETTER SAMPI, GREEK SMALL LETTER SAMPI, COPTIC CAPITAL LETTER SHEI, COPTIC SMALL
      LETTER SHEI, COPTIC CAPITAL LETTER FEI, COPTIC SMALL LETTER FEI, COPTIC CAPITAL LETTER KHEI,
      COPTIC SMALL LETTER KHEI, COPTIC CAPITAL LETTER HORI, COPTIC SMALL LETTER HORI, COPTIC
      CAPITAL LETTER GANGIA, COPTIC SMALL LETTER GANGIA, COPTIC CAPITAL LETTER SHIMA, COPTIC SMALL
      LETTER SHIMA, COPTIC CAPITAL LETTER DEI, COPTIC SMALL LETTER DEI, GREEK KAPPA SYMBOL, GREEK
      RHO SYMBOL, GREEK LUNATE SIGMA SYMBOL, GREEK LETTER YOT, GREEK CAPITAL THETA SYMBOL, GREEK
      LUNATE EPSILON SYMBOL, GREEK REVERSED LUNATE EPSILON SYMBOL, GREEK CAPITAL LETTER SHO, GREEK
      SMALL LETTER SHO, GREEK CAPITAL LUNATE SIGMA SYMBOL, GREEK CAPITAL LETTER SAN, GREEK SMALL
      LETTER SAN, GREEK RHO WITH STROKE SYMBOL, GREEK CAPITAL REVERSED LUNATE SIGMA SYMBOL, GREEK
      CAPITAL DOTTED LUNATE SIGMA SYMBOL, GREEK CAPITAL REVERSED DOTTED LUNATE SIGMA SYMBOL"⟩,
  ⟨0x400, ["CYRILLIC CAPITAL LETTER"],
    "IE WITH GRAVE, IO, DJE, GJE, UKRAINIAN IE, DZE, BYELORUSSIAN-UKRAINIAN I, YI, JE, LJE, NJE,
      TSHE, KJE, I WITH GRAVE, SHORT U, DZHE, A, BE, VE, GHE, DE, IE, ZHE, ZE, I, SHORT I, KA, EL,
      EM, EN, O, PE, ER, ES, TE, U, EF, HA, TSE, CHE, SHA, SHCHA, HARD SIGN, YERU, SOFT SIGN, E,
      YU, YA"⟩,
  ⟨0x430, ["CYRILLIC SMALL LETTER"],
    "A, BE, VE, GHE, DE, IE, ZHE, ZE, I, SHORT I, KA, EL, EM, EN, O, PE, ER, ES, TE, U, EF, HA,
      TSE, CHE, SHA, SHCHA, HARD SIGN, YERU, SOFT SIGN, E, YU, YA, IE WITH GRAVE, IO, DJE, GJE,
      UKRAINIAN IE, DZE, BYELORUSSIAN-UKRAINIAN I, YI, JE, LJE, NJE, TSHE, KJE, I WITH GRAVE,
      SHORT U, DZHE"⟩,
  ⟨0x460, ["CYRILLIC CAPITAL LETTER", "CYRILLIC SMALL LETTER"],
    "OMEGA, YAT, IOTIFIED E, LITTLE YUS, IOTIFIED LITTLE YUS, BIG YUS, IOTIFIED BIG YUS, KSI,
      PSI, FITA, IZHITSA, IZHITSA WITH DOUBLE GRAVE ACCENT, UK, ROUND OMEGA, OMEGA WITH TITLO, OT,
      KOPPA"⟩,
  ⟨0x482, [""], "CYRILLIC THOUSANDS SIGN"⟩,
  ⟨0x483, ["COMBINING"],
    "CYRILLIC TITLO, CYRILLIC PALATALIZATION, CYRILLIC DASIA PNEUMATA, CYRILLIC PSILI PNEUMATA,
      CYRILLIC POKRYTIE, CYRILLIC HUNDRED THOUSANDS SIGN, CYRILLIC MILLIONS SIGN"⟩,
  ⟨0x48A, ["CYRILLIC CAPITAL LETTER", "CYRILLIC SMALL LETTER"],
    "SHORT I WITH TAIL, SEMISOFT SIGN, ER WITH TICK, GHE WITH UPTURN, GHE WITH STROKE, GHE WITH
      MIDDLE HOOK, ZHE WITH DESCENDER, ZE WITH DESCENDER, KA WITH DESCENDER, KA WITH VERTICAL
      STROKE, KA WITH STROKE, BASHKIR KA, EN WITH DESCENDER"⟩,
  ⟨0x4A4, [""], "CYRILLIC CAPITAL LIGATURE EN GHE, CYRILLIC SMALL LIGATURE EN GHE"⟩,
  ⟨0x4A6, ["CYRILLIC CAPITAL LETTER", "CYRILLIC SMALL LETTER"],
    "PE WITH MIDDLE HOOK, ABKHASIAN HA, ES WITH DESCENDER, TE WITH DESCENDER, STRAIGHT U,
      STRAIGHT U WITH STROKE, HA WITH DESCENDER"⟩,
  ⟨0x4B4, [""], "CYRILLIC CAPITAL LIGATURE TE TSE, CYRILLIC SMALL LIGATURE TE TSE"⟩,
  ⟨0x4B6, ["CYRILLIC CAPITAL LETTER", "CYRILLIC SMALL LETTER"],
    "CHE WITH DESCENDER, CHE WITH VERTICAL STROKE, SHHA, ABKHASIAN CHE, ABKHASIAN CHE WITH
      DESCENDER"⟩,
  ⟨0x4C0, [""], "CYRILLIC LETTER PALOCHKA"⟩,
  ⟨0x4C1, ["CYRILLIC CAPITAL LETTER", "CYRILLIC SMALL LETTER"],
    "ZHE WITH BREVE, KA WITH HOOK, EL WITH TAIL, EN WITH HOOK, EN WITH TAIL, KHAKASSIAN CHE, EM
      WITH TAIL"⟩,
  ⟨0x4CF, [""], "CYRILLIC SMALL LETTER PALOCHKA"⟩,
  ⟨0x4D0, ["CYRILLIC CAPITAL LETTER", "CYRILLIC SMALL LETTER"], "A WITH BREVE, A WITH DIAERESIS"⟩,
  ⟨0x4D4, [""], "CYRILLIC CAPITAL LIGATURE A IE, CYRILLIC SMALL LIGATURE A IE"⟩,
  ⟨0x4D6, ["CYRILLIC CAPITAL LETTER", "CYRILLIC SMALL LETTER"],
    "IE WITH BREVE, SCHWA, SCHWA WITH DIAERESIS, ZHE WITH DIAERESIS, ZE WITH DIAERESIS,
      ABKHASIAN DZE, I WITH MACRON, I WITH DIAERESIS, O WITH DIAERESIS, BARRED O, BARRED O WITH
      DIAERESIS, E WITH DIAERESIS, U WITH MACRON, U WITH DIAERESIS, U WITH DOUBLE ACUTE, CHE WITH
      DIAERESIS, GHE WITH DESCENDER, YERU WITH DIAERESIS, GHE WITH STROKE AND HOOK, HA WITH HOOK,
      HA WITH STROKE, KOMI DE, KOMI DJE, KOMI ZJE, KOMI DZJE, KOMI LJE, KOMI NJE, KOMI SJE, KOMI
      TJE, REVERSED ZE, EL WITH HOOK, LHA, RHA, YAE, QA, WE, ALEUT KA, EL WITH MIDDLE HOOK, EN
      WITH MIDDLE HOOK, PE WITH DESCENDER, SHHA WITH DESCENDER, EN WITH LEFT HOOK, DZZHE, DCHE, EL
      WITH DESCENDER"⟩,
  ⟨0x1E00, ["LATIN CAPITAL LETTER", "LATIN SMALL LETTER"],
    "A WITH RING BELOW, B WITH DOT ABOVE, B WITH DOT BELOW, B WITH LINE BELOW, C WITH CEDILLA
      AND ACUTE, D WITH DOT ABOVE, D WITH DOT BELOW, D WITH LINE BELOW, D WITH CEDILLA, D WITH
      CIRCUMFLEX BELOW, E WITH MACRON AND GRAVE, E WITH MACRON AND ACUTE, E WITH CIRCUMFLEX BELOW,
      E WITH TILDE BELOW, E WITH CEDILLA AND BREVE, F WITH DOT ABOVE, G WITH MACRON, H WITH DOT
      ABOVE, H WITH DOT BELOW, H WITH DIAERESIS, H WITH CEDILLA, H WITH BREVE BELOW, I WITH TILDE
      BELOW, I WITH DIAERESIS AND ACUTE, K WITH ACUTE, K WITH DOT BELOW, K WITH LINE BELOW, L WITH
      DOT BELOW, L WITH DOT BELOW AND MACRON, L WITH LINE BELOW, L WITH CIRCUMFLEX BELOW, M WITH
      ACUTE, M WITH DOT ABOVE, M WITH DOT BELOW, N WITH DOT ABOVE, N WITH DOT BELOW, N WITH LINE
      BELOW, N WITH CIRCUMFLEX BELOW, O WITH TILDE AND ACUTE, O WITH TILDE AND DIAERESIS, O WITH
      MACRON AND GRAVE, O WITH MACRON AND ACUTE, P WITH ACUTE, P WITH DOT ABOVE, R WITH DOT ABOVE,
      R WITH DOT BELOW, R WITH DOT BELOW AND MACRON, R WITH LINE BELOW, S WITH DOT ABOVE, S WITH
      DOT BELOW, S WITH ACUTE AND DOT ABOVE, S WITH CARON AND DOT ABOVE, S WITH DOT BELOW AND DOT
      ABOVE, T WITH DOT ABOVE, T WITH DOT BELOW, T WITH LINE BELOW, T WITH CIRCUMFLEX BELOW, U
      WITH DIAERESIS BELOW, U WITH TILDE BELOW, U WITH CIRCUMFLEX BELOW, U WITH TILDE AND ACUTE, U
      WITH MACRON AND DIAERESIS, V WITH TILDE, V WITH DOT BELOW, W WITH GRAVE, W WITH ACUTE, W
      WITH DIAERESIS, W WITH DOT ABOVE, W WITH DOT BELOW, X WITH DOT ABOVE, X WITH DIAERESIS, Y
      WITH DOT ABOVE, Z WITH CIRCUMFLEX, Z WITH DOT BELOW, Z WITH LINE BELOW"⟩,
  ⟨0x1E96, ["LATIN SMALL LETTER"],
    "H WITH LINE BELOW, T WITH DIAERESIS, W WITH RING ABOVE, Y WITH RING ABOVE, A WITH RIGHT
      HALF RING, LONG S WITH DOT ABOVE, LONG S WITH DIAGONAL STROKE, LONG S WITH HIGH STROKE"⟩,
  ⟨0x1E9E, [""], "LATIN CAPITAL LETTER SHARP S, LATIN SMALL LETTER DELTA"⟩,
  ⟨0x1EA0, ["LATIN CAPITAL LETTER", "LATIN SMALL LETTER"],
    "A WITH DOT BELOW, A WITH HOOK ABOVE, A WITH CIRCUMFLEX AND ACUTE, A WITH CIRCUMFLEX AND
      GRAVE, A WITH CIRCUMFLEX AND HOOK ABOVE, A WITH CIRCUMFLEX AND TILDE, A WITH CIRCUMFLEX AND
      DOT BELOW, A WITH BREVE AND ACUTE, A WITH BREVE AND GRAVE, A WITH BREVE AND HOOK ABOVE, A
      WITH BREVE AND TILDE, A WITH BREVE AND DOT BELOW, E WITH DOT BELOW, E WITH HOOK ABOVE, E
      WITH TILDE, E WITH CIRCUMFLEX AND ACUTE, E WITH CIRCUMFLEX AND GRAVE, E WITH CIRCUMFLEX AND
      HOOK ABOVE, E WITH CIRCUMFLEX AND TILDE, E WITH CIRCUMFLEX AND DOT BELOW, I WITH HOOK ABOVE,
      I WITH DOT BELOW, O WITH DOT BELOW, O WITH HOOK ABOVE, O WITH CIRCUMFLEX AND ACUTE, O WITH
      CIRCUMFLEX AND GRAVE, O WITH CIRCUMFLEX AND HOOK ABOVE, O WITH CIRCUMFLEX AND TILDE, O WITH
      CIRCUMFLEX AND DOT BELOW, O WITH HORN AND ACUTE, O WITH HORN AND GRAVE, O WITH HORN AND HOOK
      ABOVE, O WITH HORN AND TILDE, O WITH HORN AND DOT BELOW, U WITH DOT BELOW, U WITH HOOK
      ABOVE, U WITH HORN AND ACUTE, U WITH HORN AND GRAVE, U WITH HORN AND HOOK ABOVE, U WITH HORN
      AND TILDE, U WITH HORN AND DOT BELOW, Y WITH GRAVE, Y WITH DOT BELOW, Y WITH HOOK ABOVE, Y
      WITH TILDE, MIDDLE-WELSH LL, MIDDLE-WELSH V, Y WITH LOOP"⟩]

end LineMachine.Text
