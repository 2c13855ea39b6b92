import PageRouter.Url.Domain.ImageRow

namespace PageRouter.Url

/-- What ligatures, vertical and small forms, wide and narrow forms, and the letters of further alphabets from U+A000
on are written as in domains. -/
def formRows : List ImageRow := [
  ⟨0xA69C, "ъ ь"⟩,
  ⟨0xA770, "ꝯ"⟩,
  ⟨0xA7CE, "꟏    ꟓ  ꟕ"⟩,
  ⟨0xA7F1, "s c f q    ħ œ"⟩,
  ⟨0xAB5C, "ꜧ ꬷ ɫ ꭒ"⟩,
  ⟨0xAB69, "ʍ"⟩,
  ⟨0xFB00, "ff fi fl ffi ffl st st"⟩,
  ⟨0xFB13, "մն մե մի վն մխ"⟩,
  ⟨0xFB1D, "\u05d9\u05b4  \u05f2\u05b7 \u05e2 \u05d0 \u05d3 \u05d4 \u05db \u05dc \u05dd \u05e8"⟩,
  ⟨0xFB28, "\u05ea + \u05e9\u05c1 \u05e9\u05c2 \u05e9\u05bc\u05c1 \u05e9\u05bc\u05c2"⟩,
  ⟨0xFB2E, "\u05d0\u05b7 \u05d0\u05b8 \u05d0\u05bc \u05d1\u05bc \u05d2\u05bc \u05d3\u05bc"⟩,
  ⟨0xFB34, "\u05d4\u05bc \u05d5\u05bc \u05d6\u05bc  \u05d8\u05bc \u05d9\u05bc \u05da\u05bc"⟩,
  ⟨0xFB3B, "\u05db\u05bc \u05dc\u05bc  \u05de\u05bc  \u05e0\u05bc \u05e1\u05bc  \u05e3\u05bc"⟩,
  ⟨0xFB44, "\u05e4\u05bc  \u05e6\u05bc \u05e7\u05bc \u05e8\u05bc \u05e9\u05bc \u05ea\u05bc"⟩,
  ⟨0xFB4B, "\u05d5\u05b9 \u05d1\u05bf \u05db\u05bf \u05e4\u05bf \u05d0\u05dc"⟩,
  ⟨0xFE10, ", 、  : ; ! ? 〖 〗"⟩,
  ⟨0xFE31, "— – _ _ ( ) \x7b \x7d 〔 〕 【 】 《 》 〈 〉 「 」 『 』   [ ]"⟩,
  ⟨0xFE4D, "_ _ _ , 、   ; : ? ! — ( ) \x7b \x7d 〔 〕 # & * + - < > =  \\ $ % @"⟩,
  ⟨0xFF01, "! \" # $ % & ' ( ) * + , - . / 0 1 2 3 4 5 6 7 8 9 : ; < = > ? @ a b c d e f g h i"⟩,
  ⟨0xFF2A, "j k l m n o p q r s t u v w x y z [ \\ ] ^ _ ` a b c d e f g h i j k l m n o p q r"⟩,
  ⟨0xFF53, "s t u v w x y z \x7b | \x7d ~ ⦅ ⦆ . 「 」 、 ・ ヲ ァ ィ ゥ ェ ォ ャ ュ ョ ッ ー ア"⟩,
  ⟨0xFF72, "イ ウ エ オ カ キ ク ケ コ サ シ ス セ ソ タ チ ツ テ ト ナ ニ ヌ ネ ノ ハ ヒ フ ヘ"⟩,
  ⟨0xFF8E, "ホ マ ミ ム メ モ ヤ ユ ヨ ラ リ ル レ ロ ワ ン \u3099 \u309a  \u1100 \u1101 \u11aa"⟩,
  ⟨0xFFA4, "\u1102 \u11ac \u11ad \u1103 \u1104 \u1105 \u11b0 \u11b1 \u11b2 \u11b3 \u11b4 \u11b5"⟩,
  ⟨0xFFB0, "\u111a \u1106 \u1107 \u1108 \u1121 \u1109 \u110a \u110b \u110c \u110d \u110e \u110f"⟩,
  ⟨0xFFBC, "\u1110 \u1111 \u1112    \u1161 \u1162 \u1163 \u1164 \u1165 \u1166   \u1167 \u1168"⟩,
  ⟨0xFFCC, "\u1169 \u116a \u116b \u116c   \u116d \u116e \u116f \u1170 \u1171 \u1172   \u1173"⟩,
  ⟨0xFFDB, "\u1174 \u1175    ¢ £ ¬  ¦ ¥ ₩  │ ← ↑ → ↓ ■ ○"⟩,
  ⟨0x10781, "ː ˑ æ ʙ ɓ  ʣ ꭦ ʥ ʤ ɖ ɗ ᶑ ɘ ɞ ʩ ɤ ɢ ɠ ʛ ħ ʜ ɧ ʄ ʪ ʫ ɬ 𝼄 ꞎ ɮ 𝼅 ʎ 𝼆 ø ɶ ɷ q ɺ 𝼈 ɽ ɾ"⟩,
  ⟨0x107AA, "ʀ ʨ ʦ ꭧ ʧ ʈ ⱱ  ʏ ʡ ʢ ʘ ǀ ǁ ǂ 𝼊 𝼞"⟩,
  ⟨0x16EA0, "𖺻 𖺼 𖺽 𖺾 𖺿 𖻀 𖻁 𖻂 𖻃 𖻄 𖻅 𖻆 𖻇 𖻈 𖻉 𖻊 𖻋 𖻌 𖻍 𖻎 𖻏 𖻐 𖻑 𖻒 𖻓"⟩,
  ⟨0x1CCD6, "a b c d e f g h i j k l m n o p q r s t u v w x y z 0 1 2 3 4 5 6 7 8 9"⟩,
  ⟨0x1D15E, "𝅗𝅥 𝅘𝅥 𝅘𝅥𝅮 𝅘𝅥𝅯 𝅘𝅥𝅰 𝅘𝅥𝅱 𝅘𝅥𝅲"⟩,
  ⟨0x1D1BB, "𝆹𝅥 𝆺𝅥 𝆹𝅥𝅮 𝆺𝅥𝅮 𝆹𝅥𝅯 𝆺𝅥𝅯"⟩,
  ⟨0x1E030, "а б в г д е ж з и к л м о п р с т у ф х ц ч ш ы э ю ꚉ ә і ј ө ү ӏ а б в г д е ж з"⟩,
  ⟨0x1E059, "и к л о п с у ф х ц ч ш ъ ы ґ і ѕ џ ҫ ꙑ ұ"⟩,
  ⟨0x1F101, "0, 1, 2, 3, 4, 5, 6, 7, 8, 9,"⟩,
  ⟨0x1F110, "(a) (b) (c) (d) (e) (f) (g) (h) (i) (j) (k) (l) (m) (n) (o) (p) (q) (r) (s) (t) (u)"⟩,
  ⟨0x1F125, "(v) (w) (x) (y) (z) 〔s〕 c r cd wz  a b c d e f g h i j k l m n o p q r s t u v w"⟩,
  ⟨0x1F147, "x y z hv mv sd ss ppv wc"⟩,
  ⟨0x1F16A, "mc md mr"⟩,
  ⟨0x1F190, "dj"⟩,
  ⟨0x1F200, "ほか ココ サ"⟩,
  ⟨0x1F210, "手 字 双 デ 二 多 解 天 交 映 無 料 前 後 再 新 初 終 生 販 声 吹 演 投 捕 一 三 遊"⟩,
  ⟨0x1F22C, "左 中 右 指 走 打 禁 空 合 満 有 月 申 割 営 配"⟩,
  ⟨0x1F240, "〔本〕 〔三〕 〔二〕 〔安〕 〔点〕 〔打〕 〔盗〕 〔勝〕 〔敗〕"⟩,
  ⟨0x1F250, "得 可"⟩,
  ⟨0x1FBF0, "0 1 2 3 4 5 6 7 8 9"⟩]

end PageRouter.Url
