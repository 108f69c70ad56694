import NodeCanvas.Text.CodePoints
/-!
# Characters of domain names

A domain name may hold most characters. Some stand for others: capital letters for small ones, wide
or ornamental forms for plain ones. Some are left out of a name, and some no name holds.
-/

namespace NodeCanvas

/-- What becomes of a range of characters in a domain name. -/
inductive NameChange where
  /-- They are replaced by the same text, which may be empty. -/
  | always (text : List Char)
  /-- They are replaced, in order, by the characters of a text. -/
  | inTurn (text : List Char)
  /-- They are replaced, in order, by the characters from a code point on. -/
  | shift (target : Nat)
  /-- Every second one is replaced by the character after it; `target` is the first of these. -/
  | everySecond (target : Nat)
  /-- No name holds them. -/
  | refused

namespace NameChange

/-- A change is written as a colon or an equals sign and a text, as code points with a full stop
before each, as a greater-than sign or a slash and the first code point of those that replace the
range, or as an exclamation mark. -/
def ofText : List Char → NameChange
  | ':' :: text => .always text
  | '=' :: text => .inTurn text
  | '.' :: codes =>
    .always ((Text.splitOn (· == '.') codes).map fun code => Char.ofNat (hexNumber code))
  | '>' :: target => .shift (hexNumber target)
  | '/' :: target => .everySecond (hexNumber target)
  | _ => .refused

/-- What replaces a character of a range. -/
def replacement? (range : CodeRange NameChange) (c : Char) : Option (List Char) :=
  let index := c.toNat - range.first
  match range.note with
  | .always text => some text
  | .inTurn text => text[index]?.map ([·])
  | .shift target => some [Char.ofNat (target + index)]
  | .everySecond target => some [if index % 2 = 0 then Char.ofNat (target + index) else c]
  | .refused => none

end NameChange

/-- Letters and marks of the scripts that are not written with pictures. -/
def nameLetters : String := "
  41-19>61 25-1F! .20 7.20.308 1:a 2: 1.20.304 2-1>32 .20.301 :μ 2.20.327 :1 :o 1:1⁄4 :1⁄2 :3⁄4
  1-16>E0 1-6>F8 21-2E/101 1.69.307 1-1:ij -2/135 2-4/13A 1-1:l· -6/142 1:ʼn -2C/14B 1:ÿ -4/17A 1:s
  1:ɓ -2/183 1:ɔ :ƈ 1-1>256 :ƌ 2-3=ǝəɛƒ 1:ɠ :ɣ 1-2=ɩɨƙ 3:ɯ :ɲ 1:ɵ -4/1A1 1:ʀ :ƨ 1:ʃ 2:ƭ 1:ʈ :ư
  1-1>28A -2/1B4 1:ʒ :ƹ 3:ƽ 7-2:dž -2:lj -2:nj -E/1CE 2-10/1DF 2-2:dz :ǵ 1:ƕ :ƿ -26/1F9 1:ƞ 1-10/223
  7:ⱥ :ȼ 1:ƚ :ⱦ 2:ɂ 1-2=ƀʉʌ -8/247 61-8=hɦjrɹɻʁwy 1F.20.306 .20.307 .20.30A .20.328 .20.303 .20.30B
  2-4=ɣlsxʕ 5B-1>300 1.313 .308.301 :ι 9: 20-2/371 1:ʹ 1:ͷ 1-1! .20.3B9 3:; :ϳ -3! .20.301
  .20.308.301 :ά :· -2>3AD ! :ό ! -1>3CD 1-10>3B1 ! -8>3C3 23-7=ϗβθυύϋφπ 1-16/3D9 1-2=κρσ 1:θ :ε 1:ϸ
  1:σ :ϻ 2-2>37B -F>450 -1F>430 30-20/461 9-34/48B 1:ӏ -C/4C2 2-5E/4D1 1! -25>561 -1! 2E:եւ 3-1! 3!
  37-7! 1B-3! 6-10! 16! 58.627.674 .648.674 .6C7.674 .64A.674 64! 30-1! 3B-1! 65-D! 3B-1! 31-1! F!
  1C-1! 1! B-4! 20-6! 4B! 75.915.93C .916.93C .917.93C .91C.93C .921.93C .922.93C .92B.93C .92F.93C
  24! 8-1! 2-1! 16! 7! 1-2! 4-1! 9-1! 2-1! 4-7! 1-3! .9A1.9BC .9A2.9BC ! .9AF.9BC 4-1! 19-1! 3! 6-3!
  2-1! 16! 7! 1.A32.A3C ! 1.A38.A3C ! 2-1! 1! 5-3! 2-1! 3-2! 1-6! .A16.A3C .A17.A3C .A1C.A3C 1!
  .A2B.A3C -6! 11-9! 3! 9! 3! 16! 7! 2! 5-1! A! 3! 3-1! 1-E! 4-1! C-6! 7! 3! 8-1! 2-1! 16! 7! 2!
  5-1! 9-1! 2-1! 3-6! 3-3! .B21.B3C .B22.B3C ! 5-1! 12-9! 2! 6-2! 3! 4-2! 2! 1! 2-2! 2-2! 3-2! C-3!
  5-2! 3! 4-1! 1-5! 1-D! 15-4! D! 3! 17! 10-1! 9! 3! 4-6! 2! 3! 2-1! 4-1! A-6! 16! 3! 17! A! 5-1! 9!
  3! 4-6! 2-4! 3! 4-1! A! 3-B! D! 3! 33! 3! 6-3! 10-1! 1A! 3! 12-2! 18! 9! 1-1! 7-2! 1-3! 6! 1! 8-5!
  A-1! 3-B! 32.E4D.E32 7-3! 1D-24! 2! 1! 5! 18! 1! C.ECD.EB2 A-1! 5! 1! 7! A-1! :ຫນ :ຫມ 2-1F! C:་
  36.F42.FB7 4! 4.F4C.FB7 4.F51.FB7 4.F56.FB7 4.F5B.FB7 C.F40.FB5 3-3! 2.F71.F72 1.F71.F74 .FB2.F80
  .FB2.F71.F80 .FB3.F80 .FB3.F71.F80 7.F71.F80 11.F92.FB7 4! 4.F9C.FB7 4.FA1.FB7 4.FA6.FB7 4.FAB.FB7
  C.F90.FB5 3! F! D-24! A0-25>2D00 ! :ⴧ -4! :ⴭ -1! 2C:ნ 62-1: E8! 4-1! 7! 1! 4-1! 29! 4-1! 21! 4-1!
  7! 1! 4-1! F! 39! 4-1! 43-1! 20-2! 1A-5! 56-1! -5>13F0 -1! 280! 1C-2! 59-6! 16-8! 18-8! 14-B! D!
  3! 2-B! 34-1: 28-1! A-5! A-5! B-4: A-5! 59-6! 2B-4! 46-9! 1F! C-3! C-3! 1-2! 2A-1! 5-A! 2C-3!
  1A-5! B-2! 3E-1! 41! 1D-1! B-5! A-5! E-1! 2E-1! C-13! 4D! A6-7! 3C-2! F-2! 33-2=вдо -1>441 -3=тъѣꙋ
  .1C8A 1-4! -2A>10D0 -1! -2>10FD 8-7! 2B-4! 2C:a :æ -2/62 :e :ǝ -7>67 1-3=oȣpr -1>74 :w :a -1>250
  :ᴂ :b -1>64 :ə -1>25B :g 1-4=kmŋoɔ -1>1D16 :p -1>74 -3=ᴝɯvᴥ -2>3B2 -1>3C6 :i :r -1>75 -1>3B2 :ρ
  -1>3C6 D:н 22-8=ɒcɕðɜfɟɡɥ -2>268 -6=ᵻʝɭᶅʟɱɰ -3>272 :ɸ -1>282 :ƫ -1>289 :ᴜ -1>28B :z -2>290 :θ
  40-94/1E01 5:aʾ :ṡ 2:ß 1-5E/1EA1 9-7>1F00 6-1! -5>1F10 -1! 8-7>1F20 8-7>1F30 6-1! -5>1F40 -1! 8!
  :ὑ ! :ὓ ! :ὕ ! :ὗ 8-7>1F60 1:ά 1:έ 1:ή 1:ί 1:ό 1:ύ 1:ώ -1! :ἀι :ἁι :ἂι :ἃι :ἄι :ἅι :ἆι :ἇι :ἀι :ἁι
  :ἂι :ἃι :ἄι :ἅι :ἆι :ἇι :ἠι :ἡι :ἢι :ἣι :ἤι :ἥι :ἦι :ἧι :ἠι :ἡι :ἢι :ἣι :ἤι :ἥι :ἦι :ἧι :ὠι :ὡι
  :ὢι :ὣι :ὤι :ὥι :ὦι :ὧι :ὠι :ὡι :ὢι :ὣι :ὤι :ὥι :ὦι :ὧι 2:ὰι :αι :άι ! 1:ᾶι -1>1FB0 :ὰ :ά :αι
  .20.313 :ι .20.313 .20.342 .20.308.342 :ὴι :ηι :ήι ! 1:ῆι -3=ὲέὴή :ηι .20.313.300 .20.313.301
  .20.313.342 3:ΐ -1! 2-1>1FD0 :ὶ :ί ! .20.314.300 .20.314.301 .20.314.342 3:ΰ 4-1>1FE0 -2=ὺύῥ
  .20.308.300 .20.308.301 .60 -1! :ὼι :ωι :ώι ! 1:ῶι -3=ὸόὼώ :ωι .20.301 .20.314 !"

/-- Punctuation, symbols and ideographs. -/
def nameSymbols : String := "
  -A.20 : 2-1! 1:‐ 5.20.333 C-2! 1-6! .20 3:′′ :′′′ 1:‵‵ :‵‵‵ 4:!! 1.20.305 8:?? :?! :!? D:′′′′ 7.20
  -4: -4! -5: :0 :i -1! -5>34 -2=+−= -1>28 :n -9>30 -2=+−= -1>28 ! -5=aeoxəh -3>6B :p -1>73 -2! 8:rs
  19-D! 21-E! :a/c :a/s :c :°c 1:c/o :c/u :ɛ 1:°f -1>67 -7=hhhħiill 1:n :no 2-2>70 -1:r 2:sm :tel
  :tm 1:z 1:ω 1:z 1:k :å -1>62 1-5=eefⅎmo -3>5D0 :i 1:fax -4=πγγπ∑ 4-2=dde -1>69 6:1⁄7 :1⁄9 :1⁄10
  :1⁄3 :2⁄3 :1⁄5 :2⁄5 :3⁄5 :4⁄5 :1⁄6 :5⁄6 :1⁄8 :3⁄8 :5⁄8 :7⁄8 :1⁄ :i :ii :iii :iv :v :vi :vii :viii
  :ix :x :xi :xii :l -1>63 :m :i :ii :iii :iv :v :vi :vii :viii :ix :x :xi :xii :l -1>63 :m 3:ↄ
  5:0⁄3 2-3! 9C:∫∫ :∫∫∫ 1:∮∮ :∮∮∮ F8-1>3008 FF-15! B-14! -8>31 :10 :11 :12 :13 :14 :15 :16 :17 :18
  :19 :20 :(1) :(2) :(3) :(4) :(5) :(6) :(7) :(8) :(9) :(10) :(11) :(12) :(13) :(14) :(15) :(16)
  :(17) :(18) :(19) :(20) -13! :(a) :(b) :(c) :(d) :(e) :(f) :(g) :(h) :(i) :(j) :(k) :(l) :(m) :(n)
  :(o) :(p) :(q) :(r) :(s) :(t) :(u) :(v) :(w) :(x) :(y) :(z) -19>61 -19>61 :0 521:∫∫∫∫ 67:::= :==
  :=== 65.2ADD.338 97-1! 8A-2F>2C30 30:ⱡ 1-2=ɫᵽɽ 2-4/2C68 1-3=ɑɱɐɒ 1:ⱳ 2:ⱶ 6:j :v -1>23F -62/2C81
  8-2/2CEC 4:ⳳ 1-4! 2D! 1-4! 1-1! 38-6! :ⵡ 1-D! 18-8! 7! 7! 7! 7! 7! 7! 7! 7! 7E-21! 1A! 4:母 53:龟
  -B! -17=一丨丶丿乙亅二亠人儿入八冂冖冫几凵刀力勹匕匚匸十 -17=卜卩厂厶又口囗土士夂夊夕大女子宀寸小尢尸屮山巛工 -17=己巾干幺广廴廾弋弓彐彡彳心戈戶手支攴文斗斤方无日
  -17=曰月木欠止歹殳毋比毛氏气水火爪父爻爿片牙牛犬玄玉 -17=瓜瓦甘生用田疋疒癶白皮皿目矛矢石示禸禾穴立竹米糸 -17=缶网羊羽老而耒耳聿肉臣自至臼舌舛舟艮色艸虍虫血行
  -17=衣襾見角言谷豆豕豸貝赤走足身車辛辰辵邑酉釆里金長 -17=門阜隶隹雨靑非面革韋韭音頁風飛食首香馬骨高髟鬥鬯 -15=鬲鬼魚鳥鹵鹿麥麻黃黍黑黹黽鼎鼓鼠鼻齊齒龍龜龠 -29! .20 1:.
  33:〒 1:十 -1>5344 5! 56-1! 2.20.3099 .20.309A 2:より 5F:コト -4! 2B! -1>1100 :ᆪ :ᄂ -1>11AC -2>1103
  -5>11B0 :ᄚ -2>1106 :ᄡ -9>1109 -14>1161 : -1>1114 -1>11C7 -7=ᇌᇎᇓᇗᇙᄜᇝᇟ -1>111D :ᄠ -1>1122 :ᄧ :ᄩ
  -4>112B -4=ᄲᄶᅀᅇᅌ -1>11F1 -2>1157 -1>1184 :ᆈ -1>1191 -2=ᆔᆞᆡ ! 2-D=一二三四上中下甲乙丙丁天地人 46-9! 10:(ᄀ) :(ᄂ)
  :(ᄃ) :(ᄅ) :(ᄆ) :(ᄇ) :(ᄉ) :(ᄋ) :(ᄌ) :(ᄎ) :(ᄏ) :(ᄐ) :(ᄑ) :(ᄒ) :(가) :(나) :(다) :(라) :(마) :(바) :(사)
  :(아) :(자) :(차) :(카) :(타) :(파) :(하) :(주) :(오전) :(오후) ! :(一) :(二) :(三) :(四) :(五) :(六) :(七) :(八) :(九)
  :(十) :(月) :(火) :(水) :(木) :(金) :(土) :(日) :(株) :(有) :(社) :(名) :(特) :(財) :(祝) :(労) :(代) :(呼) :(学)
  :(監) :(企) :(資) :(協) :(祭) :(休) :(自) :(至) -3=問幼文箏 8:pte :21 :22 :23 :24 :25 :26 :27 :28 :29 :30 :31
  :32 :33 :34 :35 :ᄀ -1>1102 -2>1105 :ᄉ -1>110B -4>110E -D=가나다라마바사아자차카타파하 :참고 :주의 :우
  1-17=一二三四五六七八九十月火水木金土日株有社名特財祝 -17=労秘男女適優印注項休写正上中下左右医宗学監企資協 :夜 :36 :37 :38 :39 :40 :41 :42 :43 :44
  :45 :46 :47 :48 :49 :50 :1月 :2月 :3月 :4月 :5月 :6月 :7月 :8月 :9月 :10月 :11月 :12月 :hg :erg :ev :ltd
  -3=アイウエ -1>30AA -D=キクケコサシスセソタチツテト -5>30CA -3=ヒフヘホ -4>30DE :ヤ :ユ -5>30E8 -3>30EF :令和 :アパート :アルファ
  :アンペア :アール :イニング :インチ :ウォン :エスクード :エーカー :オンス :オーム :カイリ :カラット :カロリー :ガロン :ガンマ :ギガ :ギニー :キュリー :ギルダー
  :キロ :キログラム :キロメートル :キロワット :グラム :グラムトン :クルゼイロ :クローネ :ケース :コルナ :コーポ :サイクル :サンチーム :シリング :センチ :セント
  :ダース :デシ :ドル :トン :ナノ :ノット :ハイツ :パーセント :パーツ :バーレル :ピアストル :ピクル :ピコ :ビル :ファラッド :フィート :ブッシェル :フラン
  :ヘクタール :ペソ :ペニヒ :ヘルツ :ペンス :ページ :ベータ :ポイント :ボルト :ホン :ポンド :ホール :ホーン :マイクロ :マイル :マッハ :マルク :マンション
  :ミクロン :ミリ :ミリバール :メガ :メガトン :メートル :ヤード :ヤール :ユアン :リットル :リラ :ルピー :ルーブル :レム :レントゲン :ワット :0点 :1点 :2点
  :3点 :4点 :5点 :6点 :7点 :8点 :9点 :10点 :11点 :12点 :13点 :14点 :15点 :16点 :17点 :18点 :19点 :20点 :21点 :22点 :23点
  :24点 :hpa :da :au :bar :ov :pc :dm :dm2 :dm3 :iu :平成 :昭和 :大正 :明治 :株式会社 :pa :na :μa :ma :ka :kb :mb
  :gb :cal :kcal :pf :nf :μf :μg :mg :kg :hz :khz :mhz :ghz :thz :μl :ml :dl :kl :fm :nm :μm :mm :cm
  :km :mm2 :cm2 :m2 :km2 :mm3 :cm3 :m3 :km3 :m∕s :m∕s2 :pa :kpa :mpa :gpa :rad :rad∕s :rad∕s2 :ps
  :ns :μs :ms :pv :nv :μv :mv :kv :mv :pw :nw :μw :mw :kw :mw :kω :mω ! :bq :cc :cd :c∕kg ! :db :gy
  :ha :hp :in :kk :km :kt :lm :ln :log :lx :mb :mil :mol :ph ! :ppm :pr :sr :sv :wb :v∕m :a∕m :1日
  :2日 :3日 :4日 :5日 :6日 :7日 :8日 :9日 :10日 :11日 :12日 :13日 :14日 :15日 :16日 :17日 :18日 :19日 :20日 :21日 :22日
  :23日 :24日 :25日 :26日 :27日 :28日 :29日 :30日 :31日 :gal"

/-- Syllables and forms that stand for other characters. -/
def nameForms : String := "
  708D-2! 37-8! 15C-13! -2C/A641 13-1A/A681 1:ъ :ь 5A-7! 22-C/A723 3-3C/A733 1:ꝯ 8-2/A77A 1:ᵹ
  -8/A77F 4:ꞌ 1:ɥ 2-2/A791 3-12/A797 1-4=ɦɜɡɬɪ 1-3=ʞʇʝꭓ -E/A7B5 1-2=ꞔʂᶎ -2/A7C8 1:ɤ -E/A7CD 1:ƛ -13!
  -4=scfqꟶ 2:ħ :œ 33-2! A-5! 38-7! 46-7! C-5! 74-A! 1E-2! 4E! B-3! 21! 37-8! E-1! A-1! 67-17! 1C-9!
  6-1! 6-1! 6-8! 7! 7! 2C-3=ꜧꬷɫꭒ 9:ʍ 2-3! -4F>13A0 2E-1! A-5! 2BA4-B! 17-3! 31-2103!
  -17=豈更車賈滑串句龜龜契金喇奈懶癩羅蘿螺裸邏樂洛烙珞 -17=落酪駱亂卵欄爛蘭鸞嵐濫藍襤拉臘蠟廊朗浪狼郎來冷勞 -17=擄櫓爐盧老蘆虜路露魯鷺碌祿綠菉錄鹿論壟弄籠聾牢磊
  -17=賂雷壘屢樓淚漏累縷陋勒肋凜凌稜綾菱陵讀拏樂諾丹寧 -17=怒率異北磻便復不泌數索參塞省葉說殺辰沈拾若掠略亮 -17=兩凉梁糧良諒量勵呂女廬旅濾礪閭驪麗黎力曆歷轢年憐
  -17=戀撚漣煉璉秊練聯輦蓮連鍊列劣咽烈裂說廉念捻殮簾獵 -17=令囹寧嶺怜玲瑩羚聆鈴零靈領例禮醴隸惡了僚寮尿料樂 -17=燎療蓼遼龍暈阮劉杻柳流溜琉留硫紐類六戮陸倫崙淪輪
  -17=律慄栗率隆利吏履易李梨泥理痢罹裏裡里離匿溺吝燐璘 -17=藺隣鱗麟林淋臨立笠粒狀炙識什茶刺切度拓糖宅洞暴輻 -5=行降見廓兀嗀 2:塚 1:晴 2-9=凞猪益礼神祥福靖精羽 1:蘒 1:諸
  2:逸 :都 3-17=飯飼館鶴郞隷侮僧免勉勤卑喝嘆器塀墨層屮悔慨憎懲敏 -F=既暑梅海渚漢煮爫琢碑社祉祈祐祖祝 -1>798D -17=穀突節練縉繁署者臭艹艹著褐視謁謹賓贈辶逸難響頻恵 :𤋮
  :舘 -1! -17=並况全侀充冀勇勺喝啕喙嗢塚墳奄奔婢嬨廒廙彩徭惘慎 -17=愈憎慠懲戴揄搜摒敖晴朗望杖歹殺流滛滋漢瀞煮瞧爵犯 -17=猪瑱甆画瘝瘟益盛直睊着磌窱節类絛練缾者荒華蝹襁覆
  -17=視調諸請謁諾諭謹變贈輸遲醙鉶陼難靖韛響頋頻鬒龜𢡊 -9=𢡄𣏕㮝䀘䀹𥉉𥳐𧻓齃龎 -25! :ff :fi :fl :ffi :ffl -1:st -B! :մն :մե :մի :վն
  :մխ -4! .5D9.5B4 1.5F2.5B7 .5E2 .5D0 -1>5D3 -2>5DB .5E8 .5EA :+ .5E9.5C1 .5E9.5C2 .5E9.5BC.5C1
  .5E9.5BC.5C2 .5D0.5B7 .5D0.5B8 .5D0.5BC .5D1.5BC .5D2.5BC .5D3.5BC .5D4.5BC .5D5.5BC .5D6.5BC !
  .5D8.5BC .5D9.5BC .5DA.5BC .5DB.5BC .5DC.5BC ! .5DE.5BC ! .5E0.5BC .5E1.5BC ! .5E3.5BC .5E4.5BC !
  .5E6.5BC .5E7.5BC .5E8.5BC .5E9.5BC .5EA.5BC .5D5.5B9 .5D1.5BF .5DB.5BF .5E4.5BF .5D0.5DC -1.671
  -3.67B -3.67E -3.680 -3.67A -3.67F -3.679 -3.6A4 -3.6A6 -3.684 -3.683 -3.686 -3.687 -1.68D -1.68C
  -1.68E -1.688 -1.698 -1.691 -3.6A9 -3.6AF -3.6B3 -3.6B1 -1.6BA -3.6BB -1.6C0 -3.6C1 -3.6BE -1.6D2
  -1.6D3 21-3.6AD -1.6C7 -1.6C6 -1.6C8 .6C7.674 -1.6CB -1.6C5 -1.6C9 -3.6D0 -1.649 -1.626.627
  -1.626.6D5 -1.626.648 -1.626.6C7 -1.626.6C6 -1.626.6C8 -2.626.6D0 -2.626.649 -3.6CC .626.62C
  .626.62D .626.645 .626.649 .626.64A .628.62C .628.62D .628.62E .628.645 .628.649 .628.64A .62A.62C
  .62A.62D .62A.62E .62A.645 .62A.649 .62A.64A .62B.62C .62B.645 .62B.649 .62B.64A .62C.62D .62C.645
  .62D.62C .62D.645 .62E.62C .62E.62D .62E.645 .633.62C .633.62D .633.62E .633.645 .635.62D .635.645
  .636.62C .636.62D .636.62E .636.645 .637.62D .637.645 .638.645 .639.62C .639.645 .63A.62C .63A.645
  .641.62C .641.62D .641.62E .641.645 .641.649 .641.64A .642.62D .642.645 .642.649 .642.64A .643.627
  .643.62C .643.62D .643.62E .643.644 .643.645 .643.649 .643.64A .644.62C .644.62D .644.62E .644.645
  .644.649 .644.64A .645.62C .645.62D .645.62E .645.645 .645.649 .645.64A .646.62C .646.62D .646.62E
  .646.645 .646.649 .646.64A .647.62C .647.645 .647.649 .647.64A .64A.62C .64A.62D .64A.62E .64A.645
  .64A.649 .64A.64A .630.670 .631.670 .649.670 .20.64C.651 .20.64D.651 .20.64E.651 .20.64F.651
  .20.650.651 .20.651.670 .626.631 .626.632 .626.645 .626.646 .626.649 .626.64A .628.631 .628.632
  .628.645 .628.646 .628.649 .628.64A .62A.631 .62A.632 .62A.645 .62A.646 .62A.649 .62A.64A .62B.631
  .62B.632 .62B.645 .62B.646 .62B.649 .62B.64A .641.649 .641.64A .642.649 .642.64A .643.627 .643.644
  .643.645 .643.649 .643.64A .644.645 .644.649 .644.64A .645.627 .645.645 .646.631 .646.632 .646.645
  .646.646 .646.649 .646.64A .649.670 .64A.631 .64A.632 .64A.645 .64A.646 .64A.649 .64A.64A .626.62C
  .626.62D .626.62E .626.645 .626.647 .628.62C .628.62D .628.62E .628.645 .628.647 .62A.62C .62A.62D
  .62A.62E .62A.645 .62A.647 .62B.645 .62C.62D .62C.645 .62D.62C .62D.645 .62E.62C .62E.645 .633.62C
  .633.62D .633.62E .633.645 .635.62D .635.62E .635.645 .636.62C .636.62D .636.62E .636.645 .637.62D
  .638.645 .639.62C .639.645 .63A.62C .63A.645 .641.62C .641.62D .641.62E .641.645 .642.62D .642.645
  .643.62C .643.62D .643.62E .643.644 .643.645 .644.62C .644.62D .644.62E .644.645 .644.647 .645.62C
  .645.62D .645.62E .645.645 .646.62C .646.62D .646.62E .646.645 .646.647 .647.62C .647.645 .647.670
  .64A.62C .64A.62D .64A.62E .64A.645 .64A.647 .626.645 .626.647 .628.645 .628.647 .62A.645 .62A.647
  .62B.645 .62B.647 .633.645 .633.647 .634.645 .634.647 .643.644 .643.645 .644.645 .646.645 .646.647
  .64A.645 .64A.647 .640.64E.651 .640.64F.651 .640.650.651 .637.649 .637.64A .639.649 .639.64A
  .63A.649 .63A.64A .633.649 .633.64A .634.649 .634.64A .62D.649 .62D.64A .62C.649 .62C.64A .62E.649
  .62E.64A .635.649 .635.64A .636.649 .636.64A .634.62C .634.62D .634.62E .634.645 .634.631 .633.631
  .635.631 .636.631 .637.649 .637.64A .639.649 .639.64A .63A.649 .63A.64A .633.649 .633.64A .634.649
  .634.64A .62D.649 .62D.64A .62C.649 .62C.64A .62E.649 .62E.64A .635.649 .635.64A .636.649 .636.64A
  .634.62C .634.62D .634.62E .634.645 .634.631 .633.631 .635.631 .636.631 .634.62C .634.62D .634.62E
  .634.645 .633.647 .634.647 .637.645 .633.62C .633.62D .633.62E .634.62C .634.62D .634.62E .637.645
  .638.645 -1.627.64B 12.62A.62C.645 -1.62A.62D.62C .62A.62D.645 .62A.62E.645 .62A.645.62C
  .62A.645.62D .62A.645.62E -1.62C.645.62D .62D.645.64A .62D.645.649 .633.62D.62C .633.62C.62D
  .633.62C.649 -1.633.645.62D .633.645.62C -1.633.645.645 -1.635.62D.62D .635.645.645 -1.634.62D.645
  .634.62C.64A -1.634.645.62E -1.634.645.645 .636.62D.649 -1.636.62E.645 -1.637.645.62D .637.645.645
  .637.645.64A .639.62C.645 -1.639.645.645 .639.645.649 .63A.645.645 .63A.645.64A .63A.645.649
  -1.641.62E.645 .642.645.62D .642.645.645 .644.62D.645 .644.62D.64A .644.62D.649 -1.644.62C.62C
  -1.644.62E.645 -1.644.645.62D .645.62D.62C .645.62D.645 .645.62D.64A .645.62C.62D .645.62C.645
  .645.62E.62C .645.62E.645 2.645.62C.62E .647.645.62C .647.645.645 .646.62D.645 .646.62D.649
  -1.646.62C.645 .646.62C.649 .646.645.64A .646.645.649 -1.64A.645.645 .628.62E.64A .62A.62C.64A
  .62A.62C.649 .62A.62E.64A .62A.62E.649 .62A.645.64A .62A.645.649 .62C.645.64A .62C.62D.649
  .62C.645.649 .633.62E.649 .635.62D.64A .634.62D.64A .636.62D.64A .644.62C.64A .644.645.64A
  .64A.62D.64A .64A.62C.64A .64A.645.64A .645.645.64A .642.645.64A .646.62D.64A .642.645.62D
  .644.62D.645 .639.645.64A .643.645.64A .646.62C.62D .645.62E.64A .644.62C.645 .643.645.645
  .644.62C.645 .646.62C.62D .62C.62D.64A .62D.62C.64A .645.62C.64A .641.645.64A .628.62D.64A
  .643.645.645 .639.62C.645 .635.645.645 .633.62E.64A .646.62C.64A 8-1F! .635.644.6D2 .642.644.6D2
  .627.644.644.647 .627.643.628.631 .645.62D.645.62F .635.644.639.645 .631.633.648.644
  .639.644.64A.647 .648.633.644.645 .635.644.649
  .635.644.649.20.627.644.644.647.20.639.644.64A.647.20.648.633.644.645
  .62C.644.20.62C.644.627.644.647 .631.6CC.627.644 3-F: :, :、 ! -1>3A :! :? -1>3016 -6! 10! -3=—–__
  -1>28 .7B .7D -1>3014 -1>3010 -1>300A -1>3008 -3>300C 2:[ :] -3.20.305 -4=___,、 -1! -4=;:?!— -1>28
  .7B .7D -1>3014 :# :& -1>2A -3=-<>= ! .5C -1>24 :@ -3! .20.64B .640.64B .20.64C 1.20.64D ! .20.64E
  .640.64E .20.64F .640.64F .20.650 .640.650 .20.651 .640.651 .20.652 .640.652 -1>621 -1>622 -1>623
  -1>624 -1>625 -2.626 -1.627 -3.628 -1.629 -3.62A -3.62B -3.62C -3.62D -3.62E -1.62F -1.630 -1.631
  -1.632 -3.633 -3.634 -3.635 -3.636 -3.637 -3.638 -3.639 -3.63A -3.641 -3.642 -3.643 -3.644 -3.645
  -3.646 -3.647 -1.648 -1.649 -3.64A -1.644.622 -1.644.623 -1.644.625 -1.644.627 -1! : ! -1F>21
  -19>61 -23>5B -1>2985 :. -1>300C -10=、・ヲァィゥェォャュョッーアイウエ -1>30AA -D=キクケコサシスセソタチツテト -5>30CA -3=ヒフヘホ
  -4>30DE :ヤ :ユ -5>30E8 :ワ :ン -1>3099 : -1>1100 :ᆪ :ᄂ -1>11AC -2>1103 -5>11B0 :ᄚ -2>1106 :ᄡ -9>1109
  -2! -5>1161 -1! -5>1167 -1! -5>116D -1! -2>1173 -2! -1>A2 :¬ .20.304 -2=¦¥₩ ! :│ -3>2190 :■ :○
  -10!"

/-- The scripts, symbols and ideographs after the first 65536 code points. -/
def nameBeyond : String := "
  C! 1A! 13! 2! F-1! E-21! 7B-4! 3-3! 2D-2! 58! D-2! 1-2E! 2E-81! 1D-2! 31-E! 1C-3! 24-8! 1E-4!
  2B-4! 1E! 25-3! E-29! -27>10428 76-1! A-5! -23>104D8 -3! 24-3! 28-7! 34-A! 1-A>10597 ! -E>105A3 !
  -6>105B3 ! -1>105BB ! B! F! 7! 2-2! 34-B! 137-8! 16-9! 8-17! 1-1>2D0 -2=æʙɓ ! -3=ʣꭦʥʤ -1>256
  -B=ᶑɘɞʩɤɢɠʛħʜɧʄ -1>2AA -7=ɬ𝼄ꞎɮ𝼅ʎ𝼆ø -1>276 -2=qɺ𝼈 -1>27D -6=ʀʨʦꭧʧʈⱱ ! :ʏ -1>2A1 :ʘ -2>1C0 :𝼊 :𝼞
  -44! 6-1! 1! 2C! 2-2! 1-1! 17! 48-7! 9-2F! 13! 2-4! 21-2! 1B-4! 1B-25! 38-3! 14-1! 32! 2-4! 8! 3!
  1D-1! 3-3! A-6! 9-6! 40-1F! 27-3! C-8! 36-2! 1D-1! 1B-4! 1A-6! 4-B! 7-4F! 49-36! -32>10CC0 -C!
  33-6! 2E-7! A-5! 10-15>10D70 -2! 1D-7! 2-CF! 1F! 2A! 3-1! 2-F! 6-7! 9-20! 2E-7! 2A-15! 1A-25!
  1C-13! 17-8! 4E-3! 24-8! 3E! 5-C! 19-6! A-5! 35! 12-7! 27-8! 60! 14-A! 12! 2F-3D! 7! 1! 4! F! B-5!
  3B-4! A-5! 4! 8-1! 2-1! 16! 7! 2! 5! A-1! 2-1! 3-1! 1-5! 1-4! 7-1! 7-2! 5-A! A! 1-1! 1! 26! A!
  1-1! 1! 4! A! 2-7! 2-1C! 5C! 5-1D! 48-7! A-A5! 36-1! 26-21! 45-A! A-5! D-12! 3A-5! A-5! 14-1B!
  1B-1! F-3! 17-B8! 3C-63! -1F>118C0 33-B! 8-1! 1-1! 8! 2! 1E! 2-1! C-8! A-45! 8-1! 2E-1! B-1A!
  48-7! 53-C! 49-6! A-55! 8-57! 22-D! A-5! 9! 2D! E-9! 1D-2! 20-1! 16! E-48! 7! 2! 2C-2! 1! 2! 9-7!
  A-5! 6! 2! 25! 2! 6-6! A-5! 2C-3! A-F5! 19-6! 11! 29-2! 1D-54! 1-E! 32-C! 39B-65! 6F! 5-A! C4-A4B!
  63-C! 430-F! 16-9! F9B-4! 247-1AB8! 3A-6C5! 239-6! 1F! A-3! 51! A-5! 1E-1! 6-9! 46-9! A! 7! 15-4!
  13-1AF! 3A-C5! -1F>16E60 3B-4! -18>16EBB -1! 19-2B! 4B-3! 39-6! 11-3F! 5-A! 7-8! 1CD6-28! 20-60!
  73-21FC! 4! 7! 2! 123-E! 1-1C! 3-1! 1-D! 4-7! 18C-903! 6B-4! D-2! 9-6! A-1! 4-3: -F5B! D6-19>61
  -9>30 3-2! 1B4-5! 17-E! 11-E! 2E-1! 17-8! 74-3B! F6-9! 27-1! 35.1D157.1D165 .1D158.1D165
  .1D158.1D165.1D16E .1D158.1D165.1D16F .1D158.1D165.1D170 .1D158.1D165.1D171 .1D158.1D165.1D172
  E-7: 40.1D1B9.1D165 .1D1BA.1D165 .1D1B9.1D165.1D16E .1D1BA.1D165.1D16E .1D1B9.1D165.1D16F
  .1D1BA.1D165.1D16F 2A-14! 46-79! 14-B! 14-B! 57-8! 19-86! -19>61 -19>61 -19>61 -6>61 ! -11>69
  -19>61 -19>61 :a ! -1>63 -1! :g -1! -1>6A -1! -3>6E ! -7>73 -3>61 ! :f ! -6>68 ! -A>70 -19>61
  -19>61 -1>61 ! -3>64 -1! -7>6A ! -6>73 ! -19>61 -1>61 ! -3>64 ! -4>69 ! :o -2! -6>73 ! -19>61
  -19>61 -19>61 -19>61 -19>61 -19>61 -19>61 -19>61 -19>61 -19>61 -19>61 -19>61 -19>61 :ı :ȷ -1!
  -10>3B1 :θ -6>3C3 :∇ -10>3B1 -1:σ -5>3C4 -6=∂εθκφρπ -10>3B1 :θ -6>3C3 :∇ -10>3B1 -1:σ -5>3C4
  -6=∂εθκφρπ -10>3B1 :θ -6>3C3 :∇ -10>3B1 -1:σ -5>3C4 -6=∂εθκφρπ -10>3B1 :θ -6>3C3 :∇ -10>3B1 -1:σ
  -5>3C4 -6=∂εθκφρπ -10>3B1 :θ -6>3C3 :∇ -10>3B1 -1:σ -5>3C4 -8=∂εθκφρπϝϝ -1! -9>30 -9>30 -9>30
  -9>30 -9>30 28C-E! 5! F-44F! 1F-5! 6-D4! 7! 11-1! 7! 2! 5-4! -8>430 -2>43A -A>43E :ы -1>44D
  -6=ꚉәіјөүӏ -8>430 -1>43A -1>43E :с -5>443 -1>44A -6=ґіѕџҫꙑұ -20! 1-6F! 2D-2! E-1! A-3! 2-13F!
  1F-10! 3A-4! 1-1CF! 2A-D5! 2B-3! 1-BF! 1F! 16-7! 2-DF! 7! 4! 2! F! C5-1! 10-28! -21>1E922 2A-3!
  A-3! 2-310! 44-4B! 3D-C1! -1>627 .62C .62F ! .648 .632 .62D .637 .64A -3>643 .633 .639 .641 .635
  .642 .631 .634 -1>62A .62E .630 .636 .638 .63A .66E .6BA .6A1 .66F ! .628 .62C ! .647 -1! .62D !
  .64A -3>643 .633 .639 .641 .635 .642 ! .634 -1>62A .62E ! .636 ! .63A -5! .62C -3! .62D ! .64A !
  .644 ! .646 .633 .639 ! .635 .642 ! .634 -1! .62E ! .636 ! .63A ! .6BA ! .66F ! .628 .62C ! .647
  -1! .62D .637 .64A .643 ! -1>645 .633 .639 .641 .635 .642 ! .634 -1>62A .62E ! .636 .638 .63A .66E
  ! .6A1 ! -1>627 .62C .62F -1>647 .632 .62D .637 .64A ! -2>644 .633 .639 .641 .635 .642 .631 .634
  -1>62A .62E .630 .636 .638 .63A -4! .628 .62C .62F ! .648 .632 .62D .637 .64A ! -2>644 .633 .639
  .641 .635 .642 .631 .634 -1>62A .62E .630 .636 .638 .63A -33! 2-10D! 2C-3! 64-B! F-1! F! F! 25-A!
  :0, :1, :2, :3, :4, :5, :6, :7, :8, :9, 5:(a) :(b) :(c) :(d) :(e) :(f) :(g) :(h) :(i) :(j) :(k)
  :(l) :(m) :(n) :(o) :(p) :(q) :(r) :(s) :(t) :(u) :(v) :(w) :(x) :(y) :(z) :〔s〕 :c :r :cd :wz
  1-19>61 :hv :mv :sd :ss :ppv :wc 1A:mc :md :mr 23:dj 1D-37! 1A:ほか :ココ :サ -C!
  -17=手字双デ二多解天交映無料前後再新初終生販声吹演投 -13=捕一三遊左中右指走打禁空合満有月申割営配 -3! :〔本〕 :〔三〕 :〔二〕 :〔安〕 :〔点〕 :〔打〕 :〔盗〕 :〔勝〕
  :〔敗〕 -6! :得 :可 -D! 6-99! 3D9-2! 11-2! D-2! DA-5! C-3! 1-E! C-3! 38-7! A-5! 28-7! 1E-1! C-3! 2-D!
  9-26! 158-7! E-1! D-2! B-2! 39! 1-3! 10-1! C-3! A-6! 93! 5C-9>30 1-404! A6E0-1F! 111E-1! 168E-1!
  1D31-E! 26E-9A1! -17=丽丸乁𠄢你侮侻倂偺備僧像㒞𠘺免兔兤具𠔜㒹內再𠕋冗 -10=冤仌冬况𩇟凵刃㓟刻剆割剷㔕勇勉勤勺 -1>5305
  -17=北卉卑博即卽卿卿卿𠨬灰及叟𠭣叫叱吆咞吸呈周咢哶唐 -17=啓啣善善喙喫喳嗂圖嘆圗噑噴切壮城埴堍型堲報墬𡓤売 -17=壷夆多夢奢𡚨𡛪姬娛娧姘婦㛮㛼嬈嬾嬾𡧈寃寘寧寳𡬘寿
  -D=将当尢㞁屠屮峀岍𡷤嵃𡷦嵮嵫嵼 -1>5DE1 -17=㠯巽帨帽幩㡢𢆃㡼庰庳庶廊𪎒廾𢌱𢌱舁弢弢㣇𣊸𦇚形彫 -17=㣣徚忍志忹悁㤺㤜悔𢛔惇慈慌慎慌慺憎憲憤憯懞懲懶成
  -17=戛扝抱拔捐𢬌挽拼捨掃揤𢯱搢揅掩㨮摩摾撝摷㩬敏敬𣀊 -17=旣書晉㬙暑㬈㫤冒冕最暜肭䏙朗望朡杞杓𣏃㭉柺枅桒梅 -11=𣑭梎栟椔㮝楂榣槪檨𣚣櫛㰘次𣢧歔㱎歲殟 -1>6BBA
  -17=𣪍𡴋𣫺汎𣲼沿泍汧洖派海流浩浸涅𣴞洴港湮㴳滋滇𣻑淹 -17=潮𣽞𣾎濆瀹瀞瀛㶖灊災灷炭𠔥煅𤉣熜𤎫爨爵牐𤘈犀犕𤜵 -17=𤠔獺王㺬玥㺸㺸瑇瑜瑱璅瓊㼛甤𤰶甾𤲒異𢆟瘐𤾡𤾸𥁄㿼 -5=䀈直𥃳𥃲𥄙𥄳
  -1>771E -17=真睊䀹瞋䁆䂖𥐝硎碌磌䃣𥘦祖𥚚𥛅福秫䄯穀穊穏𥥼𥪧𥪧 -17=竮䈂𥮫篆築䈧𥲀糒䊠糨糣紀𥾆絣䌁緇縂繅䌴𦈨𦉇䍙𦋙罺 -17=𦌾羕翺者𦓚𦔣聠𦖨聰𣍟䏕育脃䐋脾媵𦞧𦞵𣎓𣎜舁舄辞䑫
  -17=芑芋芝劳花芳芽苦𦬼若茝荣莭茣莽菧著荓菊菌菜𦰶𦵫𦳕 -17=䔫蓱蓳蔖𧏊蕤𦼬䕝䕡𦾱𧃒䕫虐虜虧虩蚩蚈蜎蛢蝹蜨蝫螆 -17=䗗蟡蠁䗹衠衣𧙧裗裞䘵裺㒻𧢮𧥦䚾䛇誠諭變豕𧲨貫賁贛
  -10=起𧼯𠠄跋趼跰𠣞軔輸𨗒𨗭邔郱鄑𨜮鄛鈸 -1>92D7 -17=鉼鏹鐕𨯺開䦕閷𨵷䧦雃嶲霣𩅅𩈚䩮䩶韠𩐊䪲𩒖頋頋頩𩖶 -17=飢䬳餩馧駂駾䯎𩬰鬒鱀鳽䳎䳭鵧𪃎䳸𪄅𪈎𪊑麻䵖黹黾鼅 -3=鼏鼖鼻𪘀
  -5E1! 134B-4! 212A-ACC85! -EF: -2FE0F!"

/-- What becomes of characters in a domain name. Those that are not in the table stay. -/
def nameTable : CodeTable NameChange :=
  .ofTexts NameChange.ofText [nameLetters, nameSymbols, nameForms, nameBeyond]

/-- What a character becomes in a domain name, unless no name holds it. -/
def nameChange? (c : Char) : Option (List Char) :=
  match nameTable.range? c with
  | some range => NameChange.replacement? range c
  | none => some [c]

end NodeCanvas
