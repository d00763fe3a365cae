/-
  VuserScript.Xml.Encoding.Catalogue

  The encodings that a document can name beyond the native ones, under all
  their names. Names are compared in lower case, with `_` for every run of
  characters that are neither letters, digits nor periods. In most names a
  period counts as `_` too.
-/
import VuserScript.Xml.Encoding.Basic
import VuserScript.Xml.Encoding.Tables

namespace VuserScript.Xml.Encoding

open Tables

/-- What is known of a named encoding. -/
inductive Known where
  | encoding (e : Encoding)
  /-- Characters of more than one byte, which a document cannot have in this way. -/
  | multiByte
  /-- A byte of the markup stands for another character. -/
  | incompatible
  /-- The name of a transformation that yields no text. -/
  | notText
  /-- The name of an encoding that refuses every input. -/
  | refusing (reason : String)
  /-- The name of an encoding that writes all text in ASCII. -/
  | asciiOnly

/-- Names of one encoding with what is known of it. -/
structure CatalogueEntry where
  /-- Names in which a period may stand for an underscore. -/
  loose : List String
  /-- Names that are spelled without periods. -/
  strict : List String
  known : Known

/-- All names with what is known of them. -/
def catalogue : List CatalogueEntry := [
  ⟨["646", "ansi_x3.4_1968", "ansi_x3.4_1986", "ansi_x3_4_1968", "cp367", "cp65001", "csascii",
    "csiso2022jp", "ibm367", "iso2022jp", "iso2022jp_1", "iso2022jp_2", "iso2022jp_2004",
    "iso2022jp_3", "iso2022jp_ext", "iso646_us", "iso_2022_jp", "iso_2022_jp_1",
    "iso_2022_jp_2", "iso_2022_jp_2004", "iso_2022_jp_3", "iso_2022_jp_ext",
    "iso_646.irv_1991", "iso_ir_6", "u8", "us", "us_ascii", "utf", "utf8", "utf8_ucs2",
    "utf8_ucs4"],
    ["ascii", "iso2022_jp", "iso2022_jp_1", "iso2022_jp_2", "iso2022_jp_2004", "iso2022_jp_3",
    "iso2022_jp_ext", "utf_8", "utf_8_sig"],
    .encoding .ascii⟩,
  ⟨["hz_gb", "hz_gb_2312", "hzgb"],
    ["hz"],
    .encoding (.table asciiWithoutTilde)⟩,
  ⟨[],
    ["cp1006"],
    .encoding (.table (withAscii cp1006))⟩,
  ⟨["cp1051", "ibm1051", "r8", "roman8"],
    ["hp_roman8"],
    .encoding (.table (withAscii cp1051))⟩,
  ⟨["1125", "cp866u", "ibm1125", "ruscii"],
    ["cp1125"],
    .encoding (.table (withAscii cp1125))⟩,
  ⟨["cp154", "csptcp154", "cyrillic_asian", "pt154"],
    ["ptcp154"],
    .encoding (.table (withAscii cp154))⟩,
  ⟨["437", "cspc8codepage437", "ibm437"],
    ["cp437"],
    .encoding (.table (withAscii cp437))⟩,
  ⟨[],
    ["cp720"],
    .encoding (.table (withAscii cp720))⟩,
  ⟨[],
    ["cp737"],
    .encoding (.table (withAscii cp737))⟩,
  ⟨["775", "cspc775baltic", "ibm775"],
    ["cp775"],
    .encoding (.table (withAscii cp775))⟩,
  ⟨["850", "cspc850multilingual", "ibm850"],
    ["cp850"],
    .encoding (.table (withAscii cp850))⟩,
  ⟨["852", "cspcp852", "ibm852"],
    ["cp852"],
    .encoding (.table (withAscii cp852))⟩,
  ⟨["855", "csibm855", "ibm855"],
    ["cp855"],
    .encoding (.table (withAscii cp855))⟩,
  ⟨[],
    ["cp856"],
    .encoding (.table (withAscii cp856))⟩,
  ⟨["857", "csibm857", "ibm857"],
    ["cp857"],
    .encoding (.table (withAscii cp857))⟩,
  ⟨["858", "csibm858", "ibm858"],
    ["cp858"],
    .encoding (.table (withAscii cp858))⟩,
  ⟨["860", "csibm860", "ibm860"],
    ["cp860"],
    .encoding (.table (withAscii cp860))⟩,
  ⟨["861", "cp_is", "csibm861", "ibm861"],
    ["cp861"],
    .encoding (.table (withAscii cp861))⟩,
  ⟨["862", "cspc862latinhebrew", "ibm862"],
    ["cp862"],
    .encoding (.table (withAscii cp862))⟩,
  ⟨["863", "csibm863", "ibm863"],
    ["cp863"],
    .encoding (.table (withAscii cp863))⟩,
  ⟨["865", "csibm865", "ibm865"],
    ["cp865"],
    .encoding (.table (withAscii cp865))⟩,
  ⟨["866", "csibm866", "ibm866"],
    ["cp866"],
    .encoding (.table (withAscii cp866))⟩,
  ⟨["869", "cp_gr", "csibm869", "ibm869"],
    ["cp869"],
    .encoding (.table (withAscii cp869))⟩,
  ⟨[],
    ["cp874"],
    .encoding (.table (withAscii cp874))⟩,
  ⟨["csisolatin6", "iso_8859_10", "iso_8859_10_1992", "iso_ir_157", "l6", "latin6"],
    ["iso8859_10"],
    .encoding (.table (withAscii iso885910))⟩,
  ⟨["iso_8859_11", "iso_8859_11_2001", "thai"],
    ["iso8859_11"],
    .encoding (.table (withAscii iso885911))⟩,
  ⟨["iso_8859_13", "l7", "latin7"],
    ["iso8859_13"],
    .encoding (.table (withAscii iso885913))⟩,
  ⟨["iso_8859_14", "iso_8859_14_1998", "iso_celtic", "iso_ir_199", "l8", "latin8"],
    ["iso8859_14"],
    .encoding (.table (withAscii iso885914))⟩,
  ⟨["iso_8859_15", "l9", "latin9"],
    ["iso8859_15"],
    .encoding (.table (withAscii iso885915))⟩,
  ⟨["iso_8859_16", "iso_8859_16_2001", "iso_ir_226", "l10", "latin10"],
    ["iso8859_16"],
    .encoding (.table (withAscii iso885916))⟩,
  ⟨["csisolatin2", "iso_8859_2", "iso_8859_2_1987", "iso_ir_101", "l2", "latin2"],
    ["iso8859_2"],
    .encoding (.table (withAscii iso88592))⟩,
  ⟨["csisolatin3", "iso_8859_3", "iso_8859_3_1988", "iso_ir_109", "l3", "latin3"],
    ["iso8859_3"],
    .encoding (.table (withAscii iso88593))⟩,
  ⟨["csisolatin4", "iso_8859_4", "iso_8859_4_1988", "iso_ir_110", "l4", "latin4"],
    ["iso8859_4"],
    .encoding (.table (withAscii iso88594))⟩,
  ⟨["csisolatincyrillic", "cyrillic", "iso_8859_5", "iso_8859_5_1988", "iso_ir_144"],
    ["iso8859_5"],
    .encoding (.table (withAscii iso88595))⟩,
  ⟨["arabic", "asmo_708", "csisolatinarabic", "ecma_114", "iso_8859_6", "iso_8859_6_1987",
    "iso_ir_127"],
    ["iso8859_6"],
    .encoding (.table (withAscii iso88596))⟩,
  ⟨["csisolatingreek", "ecma_118", "elot_928", "greek", "greek8", "iso_8859_7", "iso_8859_7_1987",
    "iso_ir_126"],
    ["iso8859_7"],
    .encoding (.table (withAscii iso88597))⟩,
  ⟨["csisolatinhebrew", "hebrew", "iso_8859_8", "iso_8859_8_1988", "iso_ir_138"],
    ["iso8859_8"],
    .encoding (.table (withAscii iso88598))⟩,
  ⟨["csisolatin5", "iso_8859_9", "iso_8859_9_1989", "iso_ir_148", "l5", "latin5"],
    ["iso8859_9"],
    .encoding (.table (withAscii iso88599))⟩,
  ⟨["cskoi8r"],
    ["koi8_r"],
    .encoding (.table (withAscii koi8R))⟩,
  ⟨[],
    ["koi8_t"],
    .encoding (.table (withAscii koi8T))⟩,
  ⟨[],
    ["koi8_u"],
    .encoding (.table (withAscii koi8U))⟩,
  ⟨["kz_1048", "rk1048", "strk1048_2002"],
    ["kz1048"],
    .encoding (.table (withAscii kz1048))⟩,
  ⟨["8859", "cp819", "csisolatin1", "ibm819", "iso8859", "iso8859_1", "iso_8859_1",
    "iso_8859_1_1987", "iso_ir_100", "l1", "latin", "latin1"],
    ["charmap", "latin_1", "raw_unicode_escape", "unicode_escape"],
    .encoding (.table (withAscii latinSigns))⟩,
  ⟨[],
    ["mac_croatian"],
    .encoding (.table (withAscii macCroatian))⟩,
  ⟨["maccyrillic"],
    ["mac_cyrillic"],
    .encoding (.table (withAscii macCyrillic))⟩,
  ⟨["macgreek"],
    ["mac_greek"],
    .encoding (.table (withAscii macGreek))⟩,
  ⟨["maciceland"],
    ["mac_iceland"],
    .encoding (.table (withAscii macIceland))⟩,
  ⟨["mac_centeuro", "maccentraleurope", "maclatin2"],
    ["mac_latin2"],
    .encoding (.table (withAscii macLatin2))⟩,
  ⟨["macintosh", "macroman"],
    ["mac_roman"],
    .encoding (.table (withAscii macRoman))⟩,
  ⟨[],
    ["mac_romanian"],
    .encoding (.table (withAscii macRomanian))⟩,
  ⟨["macturkish"],
    ["mac_turkish"],
    .encoding (.table (withAscii macTurkish))⟩,
  ⟨[],
    ["palmos"],
    .encoding (.table (withAscii palmos))⟩,
  ⟨["iso_ir_166", "tis620", "tis_620_0", "tis_620_2529_0", "tis_620_2529_1"],
    ["tis_620"],
    .encoding (.table (withAscii tis620))⟩,
  ⟨["1250", "windows_1250"],
    ["cp1250"],
    .encoding (.table (withAscii windows1250))⟩,
  ⟨["1251", "windows_1251"],
    ["cp1251"],
    .encoding (.table (withAscii windows1251))⟩,
  ⟨["1252", "windows_1252"],
    ["cp1252"],
    .encoding (.table (withAscii windows1252))⟩,
  ⟨["1253", "windows_1253"],
    ["cp1253"],
    .encoding (.table (withAscii windows1253))⟩,
  ⟨["1254", "windows_1254"],
    ["cp1254"],
    .encoding (.table (withAscii windows1254))⟩,
  ⟨["1255", "windows_1255"],
    ["cp1255"],
    .encoding (.table (withAscii windows1255))⟩,
  ⟨["1256", "windows_1256"],
    ["cp1256"],
    .encoding (.table (withAscii windows1256))⟩,
  ⟨["1257", "windows_1257"],
    ["cp1257"],
    .encoding (.table (withAscii windows1257))⟩,
  ⟨["1258", "windows_1258"],
    ["cp1258"],
    .encoding (.table (withAscii windows1258))⟩,
  ⟨["932", "936", "949", "950", "big5_hkscs", "big5_tw", "chinese", "cp1361", "cp936", "csbig5",
    "csiso2022kr", "csiso58gb231280", "csshiftjis", "euc_cn", "euc_jis2004", "euccn",
    "eucgb2312_cn", "eucjis2004", "eucjisx0213", "eucjp", "euckr", "gb18030_2000",
    "gb2312_1980", "gb2312_80", "hkscs", "iso2022kr", "iso_2022_kr", "iso_ir_58", "jisx0213",
    "korean", "ks_c_5601", "ks_c_5601_1987", "ks_x_1001", "ksc5601", "ksx1001", "ms1361",
    "ms932", "ms936", "ms949", "ms950", "ms_kanji", "mskanji", "s_jis", "s_jis_2004",
    "s_jisx0213", "shiftjis", "shiftjis2004", "shiftjisx0213", "sjis", "sjis_2004",
    "sjisx0213", "u16", "u32", "u7", "u_jis", "uhc", "ujis", "unicode_1_1_utf_7",
    "unicodebigunmarked", "unicodelittleunmarked", "utf16", "utf32", "utf7", "utf_16be",
    "utf_16le", "utf_32be", "utf_32le", "x_mac_japanese", "x_mac_korean", "x_mac_simp_chinese",
    "x_mac_trad_chinese"],
    ["big5", "big5hkscs", "cp932", "cp949", "cp950", "euc_jis_2004", "euc_jisx0213", "euc_jp",
    "euc_kr", "gb18030", "gb2312", "gbk", "iso2022_kr", "johab", "shift_jis", "shift_jis_2004",
    "shift_jisx0213", "utf_16", "utf_16_be", "utf_16_le", "utf_32", "utf_32_be", "utf_32_le",
    "utf_7"],
    .multiByte⟩,
  ⟨["037", "1026", "1140", "273", "424", "500", "864", "csibm037", "csibm1026", "csibm273",
    "csibm424", "csibm500", "csibm864", "ebcdic_cp_be", "ebcdic_cp_ca", "ebcdic_cp_ch",
    "ebcdic_cp_he", "ebcdic_cp_nl", "ebcdic_cp_us", "ebcdic_cp_wt", "ibm037", "ibm039",
    "ibm1026", "ibm1140", "ibm273", "ibm424", "ibm500", "ibm864"],
    ["cp037", "cp1026", "cp1140", "cp273", "cp424", "cp500", "cp864", "cp875", "mac_arabic",
    "mac_farsi"],
    .incompatible⟩,
  ⟨["base64", "base_64", "bz2", "hex", "quopri", "quoted_printable", "quotedprintable", "rot13",
    "uu", "zip", "zlib"],
    ["base64_codec", "bz2_codec", "hex_codec", "quopri_codec", "rot_13", "uu_codec", "zlib_codec"],
    .notText⟩,
  ⟨[], ["undefined"],
    .refusing "undefined encoding"⟩,
  ⟨[], ["idna"],
    .refusing "Unsupported error handling replace"⟩,
  ⟨[], ["punycode"],
    .asciiOnly⟩]

/-- The form in which names are compared. A run of other characters becomes one `_`, and is
dropped at the start and at the end. -/
def normalName (pending : Bool) (started : Bool) : List Char → List Char
  | [] => []
  | c :: rest =>
    if c.isAlphanum || c == '.' then
      (if pending && started then ['_', c.toLower] else [c.toLower]) ++ normalName false true rest
    else normalName true started rest

/-- What is known of a name. -/
def known? (name : String) : Option Known :=
  let normal := normalName false false name.toList
  let exact := String.ofList normal
  let spelled := String.ofList (normal.map fun c => if c = '.' then '_' else c)
  let hasName (e : CatalogueEntry) : Bool :=
    e.loose.contains exact || e.loose.contains spelled || e.strict.contains exact
  (catalogue.find? hasName).map (·.known)

end VuserScript.Xml.Encoding
