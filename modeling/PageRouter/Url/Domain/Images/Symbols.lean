import PageRouter.Url.Domain.ImageRow

namespace PageRouter.Url

/-- What letter-like symbols, numbers in circles, squared words and other signs from U+2000 to U+A000 are written as
in domains. -/
def symbolRows : List ImageRow := [
  ⟨0x2011, "‐"⟩,
  ⟨0x2033, "′′ ′′′  ‵‵ ‵‵‵"⟩,
  ⟨0x203C, "!!"⟩,
  ⟨0x2047, "?? ?! !?"⟩,
  ⟨0x2057, "′′′′"⟩,
  ⟨0x2070, "0 i   4 5 6 7 8 9 + − = ( ) n 0 1 2 3 4 5 6 7 8 9 + − = ( )  a e o x ə h k l m n p"⟩,
  ⟨0x209B, "s t"⟩,
  ⟨0x20A8, "rs"⟩,
  ⟨0x2100, "a/c a/s c °c  c/o c/u ɛ  °f g h h h h ħ i i l l  n no   p q r r r   sm tel tm  z"⟩,
  ⟨0x2128, "z    b c  e e f  m o \u05d0 \u05d1 \u05d2 \u05d3 i  fax π γ γ π ∑"⟩,
  ⟨0x2145, "d d e i j"⟩,
  ⟨0x2150, "1⁄7 1⁄9 1⁄10 1⁄3 2⁄3 1⁄5 2⁄5 3⁄5 4⁄5 1⁄6 5⁄6 1⁄8 3⁄8 5⁄8 7⁄8 1⁄ i ii iii iv v vi"⟩,
  ⟨0x2166, "vii viii ix x xi xii l c d m i ii iii iv v vi vii viii ix x xi xii l c d m"⟩,
  ⟨0x2189, "0⁄3"⟩,
  ⟨0x222C, "∫∫ ∫∫∫  ∮∮ ∮∮∮"⟩,
  ⟨0x2329, "〈 〉"⟩,
  ⟨0x2460, "1 2 3 4 5 6 7 8 9 10 11 12 13 14 15 16 17 18 19 20 (1) (2) (3) (4) (5) (6) (7) (8)"⟩,
  ⟨0x247C, "(9) (10) (11) (12) (13) (14) (15) (16) (17) (18) (19) (20)"⟩,
  ⟨0x249C, "(a) (b) (c) (d) (e) (f) (g) (h) (i) (j) (k) (l) (m) (n) (o) (p) (q) (r) (s) (t) (u)"⟩,
  ⟨0x24B1, "(v) (w) (x) (y) (z) a b c d e f g h i j k l m n o p q r s t u v w x y z a b c d e f"⟩,
  ⟨0x24D6, "g h i j k l m n o p q r s t u v w x y z 0"⟩,
  ⟨0x2A0C, "∫∫∫∫"⟩,
  ⟨0x2A74, "::= == ==="⟩,
  ⟨0x2ADC, "⫝\u0338"⟩,
  ⟨0x2C7C, "j v"⟩,
  ⟨0x2D6F, "ⵡ"⟩,
  ⟨0x3002, "."⟩,
  ⟨0x3036, "〒  十 卄 卅"⟩,
  ⟨0x309F, "より"⟩,
  ⟨0x30FF, "コト"⟩,
  ⟨0x3131, "\u1100 \u1101 \u11aa \u1102 \u11ac \u11ad \u1103 \u1104 \u1105 \u11b0 \u11b1 \u11b2"⟩,
  ⟨0x313D, "\u11b3 \u11b4 \u11b5 \u111a \u1106 \u1107 \u1108 \u1121 \u1109 \u110a \u110b \u110c"⟩,
  ⟨0x3149, "\u110d \u110e \u110f \u1110 \u1111 \u1112 \u1161 \u1162 \u1163 \u1164 \u1165 \u1166"⟩,
  ⟨0x3155, "\u1167 \u1168 \u1169 \u116a \u116b \u116c \u116d \u116e \u116f \u1170 \u1171 \u1172"⟩,
  ⟨0x3161, "\u1173 \u1174 \u1175  \u1114 \u1115 \u11c7 \u11c8 \u11cc \u11ce \u11d3 \u11d7"⟩,
  ⟨0x316D, "\u11d9 \u111c \u11dd \u11df \u111d \u111e \u1120 \u1122 \u1123 \u1127 \u1129 \u112b"⟩,
  ⟨0x3179, "\u112c \u112d \u112e \u112f \u1132 \u1136 \u1140 \u1147 \u114c \u11f1 \u11f2 \u1157"⟩,
  ⟨0x3185, "\u1158 \u1159 \u1184 \u1185 \u1188 \u1191 \u1192 \u1194 \u119e \u11a1    一 二 三 四"⟩,
  ⟨0x3196, "上 中 下 甲 乙 丙 丁 天 地 人"⟩,
  ⟨0x3200, "(\u1100) (\u1102) (\u1103) (\u1105) (\u1106) (\u1107) (\u1109) (\u110b) (\u110c)"⟩,
  ⟨0x3209, "(\u110e) (\u110f) (\u1110) (\u1111) (\u1112) (가) (나) (다) (라) (마) (바) (사) (아)"⟩,
  ⟨0x3216, "(자) (차) (카) (타) (파) (하) (주) (오전) (오후)  (一) (二) (三) (四) (五) (六) (七)"⟩,
  ⟨0x3227, "(八) (九) (十) (月) (火) (水) (木) (金) (土) (日) (株) (有) (社) (名) (特) (財) (祝)"⟩,
  ⟨0x3238, "(労) (代) (呼) (学) (監) (企) (資) (協) (祭) (休) (自) (至) 問 幼 文 箏"⟩,
  ⟨0x3250, "pte 21 22 23 24 25 26 27 28 29 30 31 32 33 34 35 \u1100 \u1102 \u1103 \u1105 \u1106"⟩,
  ⟨0x3265, "\u1107 \u1109 \u110b \u110c \u110e \u110f \u1110 \u1111 \u1112 가 나 다 라 마 바 사"⟩,
  ⟨0x3275, "아 자 차 카 타 파 하 참고 주의 우  一 二 三 四 五 六 七 八 九 十 月 火 水 木 金 土 日"⟩,
  ⟨0x3291, "株 有 社 名 特 財 祝 労 秘 男 女 適 優 印 注 項 休 写 正 上 中 下 左 右 医 宗 学 監"⟩,
  ⟨0x32AD, "企 資 協 夜 36 37 38 39 40 41 42 43 44 45 46 47 48 49 50 1月 2月 3月 4月 5月 6月 7月"⟩,
  ⟨0x32C7, "8月 9月 10月 11月 12月 hg erg ev ltd ア イ ウ エ オ カ キ ク ケ コ サ シ ス セ ソ タ"⟩,
  ⟨0x32E0, "チ ツ テ ト ナ ニ ヌ ネ ノ ハ ヒ フ ヘ ホ マ ミ ム メ モ ヤ ユ ヨ ラ リ ル レ ロ ワ"⟩,
  ⟨0x32FC, "ヰ ヱ ヲ 令和 アパート アルファ アンペア アール イニング インチ ウォン エスクード"⟩,
  ⟨0x3308, "エーカー オンス オーム カイリ カラット カロリー ガロン ガンマ ギガ ギニー キュリー ギルダー"⟩,
  ⟨0x3314, "キロ キログラム キロメートル キロワット グラム グラムトン クルゼイロ クローネ ケース"⟩,
  ⟨0x331D, "コルナ コーポ サイクル サンチーム シリング センチ セント ダース デシ ドル トン ナノ"⟩,
  ⟨0x3329, "ノット ハイツ パーセント パーツ バーレル ピアストル ピクル ピコ ビル ファラッド フィート"⟩,
  ⟨0x3334, "ブッシェル フラン ヘクタール ペソ ペニヒ ヘルツ ペンス ページ ベータ ポイント ボルト ホン"⟩,
  ⟨0x3340, "ポンド ホール ホーン マイクロ マイル マッハ マルク マンション ミクロン ミリ ミリバール"⟩,
  ⟨0x334B, "メガ メガトン メートル ヤード ヤール ユアン リットル リラ ルピー ルーブル レム レントゲン"⟩,
  ⟨0x3357, "ワット 0点 1点 2点 3点 4点 5点 6点 7点 8点 9点 10点 11点 12点 13点 14点 15点 16点 17点"⟩,
  ⟨0x336A, "18点 19点 20点 21点 22点 23点 24点 hpa da au bar ov pc dm dm2 dm3 iu 平成 昭和 大正"⟩,
  ⟨0x337E, "明治 株式会社 pa na μa ma ka kb mb gb cal kcal pf nf μf μg mg kg hz khz mhz ghz thz"⟩,
  ⟨0x3395, "μl ml dl kl fm nm μm mm cm km mm2 cm2 m2 km2 mm3 cm3 m3 km3 m∕s m∕s2 pa kpa mpa gpa"⟩,
  ⟨0x33AD, "rad rad∕s rad∕s2 ps ns μs ms pv nv μv mv kv mv pw nw μw mw kw mw kω mω  bq cc cd"⟩,
  ⟨0x33C6, "c∕kg  db gy ha hp in kk km kt lm ln log lx mb mil mol ph  ppm pr sr sv wb v∕m a∕m"⟩,
  ⟨0x33E0, "1日 2日 3日 4日 5日 6日 7日 8日 9日 10日 11日 12日 13日 14日 15日 16日 17日 18日 19日"⟩,
  ⟨0x33F3, "20日 21日 22日 23日 24日 25日 26日 27日 28日 29日 30日 31日 gal"⟩]

end PageRouter.Url
