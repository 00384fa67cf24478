import AdFilter.Unicode.Ranges

/-! # Script extensions

The script extensions of a character name every script it is used with. For nearly all
characters that is the script itself, so the tables hold the differences only.
-/

namespace AdFilter.Unicode

/-- The characters that a script shares with others and that are not its own. -/
def scriptGuests : List Table := [
  ⟨["adlm", "adlam"],
    .ofText ["61F 640 204F 2E41"]⟩,
  ⟨["aghb", "caucasianalbanian"],
    .ofText ["304 331 35E"]⟩,
  ⟨["arab", "arabic"],
    .ofText ["60C 61B 61F 640 64B-655 670 204F 2E41 FD3E-FD3F 102E0-102FB"]⟩,
  ⟨["armn", "armenian"],
    .ofText ["308"]⟩,
  ⟨["avst", "avestan"],
    .ofText ["B7 2E30-2E31"]⟩,
  ⟨["beng", "bengali"],
    .ofText ["2BC 951-952 964-965 1CD0 1CD2 1CD5-1CD6 1CD8 1CE1 1CEA 1CED 1CF2 1CF5-1CF7 A8F1"]⟩,
  ⟨["bopo", "bopomofo"],
    .ofText [
      "2C7 2C9-2CB 2D9 3001-3003 3008-3011 3013-301F 302A-302D 3030 3037 30FB FE45-FE46",
      "FF61-FF65"]⟩,
  ⟨["bugi", "buginese"],
    .ofText ["A9CF"]⟩,
  ⟨["buhd", "buhid"],
    .ofText ["1735-1736"]⟩,
  ⟨["cakm", "chakma"],
    .ofText ["9E6-9EF 1040-1049"]⟩,
  ⟨["cari", "carian"],
    .ofText ["B7 205A 205D 2E31"]⟩,
  ⟨["cher", "cherokee"],
    .ofText ["300-302 304 30B-30C 323-324 330-331"]⟩,
  ⟨["copt", "coptic", "qaac"],
    .ofText ["B7 300 304-305 307 374-375 2E17 102E0-102FB"]⟩,
  ⟨["cpmn", "cyprominoan"],
    .ofText ["10100-10101"]⟩,
  ⟨["cprt", "cypriot"],
    .ofText ["10100-10102 10107-10133 10137-1013F"]⟩,
  ⟨["cyrl", "cyrillic"],
    .ofText ["2BC 300-302 304-308/2 30B 311 485-486 1DF8 2E43"]⟩,
  ⟨["deva", "devanagari"],
    .ofText ["2BC 951-952 964-965 1CD0-1CF6 1CF8-1CF9 20F0 A830-A839"]⟩,
  ⟨["dogr", "dogra"],
    .ofText ["964-96F A830-A839"]⟩,
  ⟨["dupl", "duployan"],
    .ofText ["B7 307-308 30A 323-324 2E3C 1BCA0-1BCA3"]⟩,
  ⟨["elba", "elbasan"],
    .ofText ["B7 305"]⟩,
  ⟨["ethi", "ethiopic"],
    .ofText ["30E"]⟩,
  ⟨["geor", "georgian"],
    .ofText ["B7 589 10FB 205A 2E31"]⟩,
  ⟨["glag", "glagolitic"],
    .ofText ["B7 303 305 484 487 589 10FB 205A 2E43 A66F"]⟩,
  ⟨["gong", "gunjalagondi"],
    .ofText ["B7 964-965"]⟩,
  ⟨["gonm", "masaramgondi"],
    .ofText ["964-965"]⟩,
  ⟨["goth", "gothic"],
    .ofText ["B7 304-305 308 331"]⟩,
  ⟨["gran", "grantha"],
    .ofText [
      "951-952 964-965 BE6-BF3 1CD0 1CD2-1CD3 1CF2-1CF4 1CF8-1CF9 20F0 1133B 11FD0-11FD1",
      "11FD3"]⟩,
  ⟨["grek", "greek"],
    .ofText ["B7 300-301 304-308/2 313 342 345 374 1DC0-1DC1 205D"]⟩,
  ⟨["gujr", "gujarati"],
    .ofText ["951-952 964-965 A830-A839"]⟩,
  ⟨["guru", "gurmukhi"],
    .ofText ["951-952 964-965 A830-A839"]⟩,
  ⟨["hang", "hangul"],
    .ofText ["3001-3003 3008-3011 3013-301F 3030 3037 30FB FE45-FE46 FF61-FF65"]⟩,
  ⟨["hani", "han"],
    .ofText [
      "B7 2FF0-2FFF 3001-3003 3006 3008-3011 3013-301F 302A-302D 3030 3037 303C-303F 30FB",
      "3190-319F 31C0-31E5 31EF 3220-3247 3280-32B0 32C0-32CB 32FF 3358-3370 337B-337F 33E0-33FE",
      "A700-A707 FE45-FE46 FF61-FF65 1D360-1D371 1F250-1F251"]⟩,
  ⟨["hano", "hanunoo"],
    .ofText ["1735-1736"]⟩,
  ⟨["hebr", "hebrew"],
    .ofText ["307-308"]⟩,
  ⟨["hira", "hiragana"],
    .ofText [
      "3001-3003 3008-3011 3013-301F 3030-3035 3037 303C-303D 3099-309C 30A0 30FB-30FC",
      "FE45-FE46 FF61-FF65 FF70 FF9E-FF9F"]⟩,
  ⟨["hung", "oldhungarian"],
    .ofText ["205A 205D 2E31 2E41"]⟩,
  ⟨["java", "javanese"],
    .ofText ["A9CF"]⟩,
  ⟨["kali", "kayahli"],
    .ofText ["A92E"]⟩,
  ⟨["kana", "katakana"],
    .ofText [
      "305 323 3001-3003 3008-3011 3013-301F 3030-3035 3037 303C-303D 3099-309C 30A0",
      "30FB-30FC FE45-FE46 FF61-FF65 FF70 FF9E-FF9F"]⟩,
  ⟨["khoj", "khojki"],
    .ofText ["AE6-AEF A830-A839"]⟩,
  ⟨["knda", "kannada"],
    .ofText ["951-952 964-965 1CD0 1CD2-1CD3 1CDA 1CF2 1CF4 A830-A835"]⟩,
  ⟨["kthi", "kaithi"],
    .ofText ["966-96F 2E31 A830-A839"]⟩,
  ⟨["latn", "latin"],
    .ofText [
      "B7 2BC 2C7 2C9-2CB 2CD 2D7 2D9 300-30E 310-311 313 323-325 32D-32E 330-331 358 35E",
      "363-36F 485-486 951-952 10FB 1DF8 202F 20F0 2E17 A700-A707 A92E"]⟩,
  ⟨["limb", "limbu"],
    .ofText ["965"]⟩,
  ⟨["lina", "lineara"],
    .ofText ["10107-10133"]⟩,
  ⟨["linb", "linearb"],
    .ofText ["10100-10102 10107-10133 10137-1013F"]⟩,
  ⟨["lisu"],
    .ofText ["2BC 2CD 300A-300B"]⟩,
  ⟨["lyci", "lycian"],
    .ofText ["205A"]⟩,
  ⟨["lydi", "lydian"],
    .ofText ["B7 2E31"]⟩,
  ⟨["mahj", "mahajani"],
    .ofText ["B7 964-96F A830-A839"]⟩,
  ⟨["mand", "mandaic"],
    .ofText ["640"]⟩,
  ⟨["mani", "manichaean"],
    .ofText ["640"]⟩,
  ⟨["mero", "meroitichieroglyphs"],
    .ofText ["205D"]⟩,
  ⟨["mlym", "malayalam"],
    .ofText ["951-952 964-965 1CDA 1CF2 A830-A832"]⟩,
  ⟨["modi"],
    .ofText ["A830-A839"]⟩,
  ⟨["mong", "mongolian"],
    .ofText ["1802-1803 1805 202F 3001-3002 3008-300B"]⟩,
  ⟨["mult", "multani"],
    .ofText ["A66-A6F"]⟩,
  ⟨["mymr", "myanmar"],
    .ofText ["A92E"]⟩,
  ⟨["nand", "nandinagari"],
    .ofText ["951 964-965 CE6-CEF 1CE9 1CF2 1CFA A830-A835"]⟩,
  ⟨["newa"],
    .ofText ["951-952 1CD5 1CD7-1CD8 1CE2 1CE9-1CED/2"]⟩,
  ⟨["nkoo", "nko"],
    .ofText ["60C 61B 61F FD3E-FD3F"]⟩,
  ⟨["orkh", "oldturkic"],
    .ofText ["205A 2E30"]⟩,
  ⟨["orya", "oriya"],
    .ofText ["951-952 964-965 1CDA 1CF2"]⟩,
  ⟨["osge", "osage"],
    .ofText ["301 304 30B 358"]⟩,
  ⟨["ougr", "olduyghur"],
    .ofText ["640 10AF2"]⟩,
  ⟨["perm", "oldpermic"],
    .ofText ["B7 300 306-308 313 483"]⟩,
  ⟨["phag", "phagspa"],
    .ofText ["1802-1803 1805 202F 3002"]⟩,
  ⟨["phlp", "psalterpahlavi"],
    .ofText ["640"]⟩,
  ⟨["rohg", "hanifirohingya"],
    .ofText ["60C 61B 61F 640 6D4"]⟩,
  ⟨["runr", "runic"],
    .ofText ["16EB-16ED"]⟩,
  ⟨["samr", "samaritan"],
    .ofText ["2E31"]⟩,
  ⟨["shaw", "shavian"],
    .ofText ["B7"]⟩,
  ⟨["shrd", "sharada"],
    .ofText ["951 1CD7 1CD9 1CDC-1CDD 1CE0 1CEA 1CED A830-A835 A838"]⟩,
  ⟨["sind", "khudawadi"],
    .ofText ["964-965 A830-A839"]⟩,
  ⟨["sinh", "sinhala"],
    .ofText ["964-965 1CF2"]⟩,
  ⟨["sogd", "sogdian"],
    .ofText ["640"]⟩,
  ⟨["sylo", "sylotinagri"],
    .ofText ["964-965 9E6-9EF"]⟩,
  ⟨["syrc", "syriac"],
    .ofText [
      "303-304 307-308 30A 323-325 32D-32E 330-331 60C 61B-61C 61F 640 64B-655 670 1DF8",
      "1DFA"]⟩,
  ⟨["tagb", "tagbanwa"],
    .ofText ["1735-1736"]⟩,
  ⟨["takr", "takri"],
    .ofText ["964-965 A830-A839"]⟩,
  ⟨["tale", "taile"],
    .ofText ["300-301 307-308 30C 1040-1049"]⟩,
  ⟨["taml", "tamil"],
    .ofText ["951-952 964-965 1CDA A8F3 11301 11303 1133B-1133C"]⟩,
  ⟨["tang", "tangut"],
    .ofText ["2FF0-2FFF 31EF"]⟩,
  ⟨["telu", "telugu"],
    .ofText ["951-952 964-965 1CD5-1CD6 1CD8 1CDA 1CF2"]⟩,
  ⟨["tfng", "tifinagh"],
    .ofText ["302 304 306-309 323"]⟩,
  ⟨["tglg", "tagalog"],
    .ofText ["1735-1736"]⟩,
  ⟨["thaa", "thaana"],
    .ofText ["60C 61B-61C 61F 660-669 FDF2 FDFD"]⟩,
  ⟨["thai"],
    .ofText ["2BC 2D7 303 331"]⟩,
  ⟨["tibt", "tibetan"],
    .ofText ["3008-300B"]⟩,
  ⟨["tirh", "tirhuta"],
    .ofText ["951-952 964-965 1CD5 1CE2 1CF2 A830-A839"]⟩,
  ⟨["toto"],
    .ofText ["2BC"]⟩,
  ⟨["yezi", "yezidi"],
    .ofText ["60C 61B 61F 660-669"]⟩,
  ⟨["yiii", "yi"],
    .ofText ["3001-3002 3008-3011 3014-301B 30FB FF61-FF65"]⟩,
  ⟨["gara", "garay"],
    .ofText ["60C 61B 61F"]⟩,
  ⟨["gukh", "gurungkhema"],
    .ofText ["965"]⟩,
  ⟨["onao", "olonal"],
    .ofText ["964-965"]⟩,
  ⟨["sunu", "sunuwar"],
    .ofText ["300-301 303 30D 310 32D 331"]⟩,
  ⟨["todr", "todhri"],
    .ofText ["301 304 307 311 313 35E"]⟩,
  ⟨["tutg", "tulutigalari"],
    .ofText ["CE6-CEF 1CF2 1CF4 A830-A835 A8F1"]⟩]

/-- The characters of a script that are counted to the scripts they are used with instead. -/
def scriptMovers : List Table := [
  ⟨["zinh", "inherited", "qaai"],
    .ofText [
      "300-30E 310-311 313 323-325 32D-32E 330-331 342 345 358 35E 363-36F 485-486",
      "64B-655 670 951-952 1CD0-1CD2 1CD4-1CE0 1CE2-1CE8 1CED 1CF4 1CF8-1CF9 1DC0-1DC1 1DF8 1DFA",
      "20F0 302A-302D 3099-309A 102E0 1133B"]⟩,
  ⟨["zyyy", "common"],
    .ofText [
      "B7 2BC 2C7 2C9-2CB 2CD 2D7 2D9 374 60C 61B 61F 640 964-965 10FB 16EB-16ED",
      "1735-1736 1802-1803 1805 1CD3 1CE1 1CE9-1CEC 1CEE-1CF3 1CF5-1CF7 1CFA 202F 204F 205A 205D",
      "2E17 2E30-2E31 2E3C 2E41 2E43 2FF0-2FFF 3001-3003 3006 3008-3011 3013-301F 3030-3035 3037",
      "303C-303F 309B-309C 30A0 30FB-30FC 3190-319F 31C0-31E5 31EF 3220-3247 3280-32B0 32C0-32CB",
      "32FF 3358-3370 337B-337F 33E0-33FE A700-A707 A830-A839 A92E A9CF FD3E-FD3F FE45-FE46",
      "FF61-FF65 FF70 FF9E-FF9F 10100-10102 10107-10133 10137-1013F 102E1-102FB 1BCA0-1BCA3",
      "1D360-1D371 1F250-1F251"]⟩]

end AdFilter.Unicode
