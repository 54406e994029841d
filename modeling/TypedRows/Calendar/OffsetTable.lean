/-!
# Offset changes of the named zones

For every named zone the offset from UTC before its first change, and the changes: each is the
second before or after 1970-01-01 00:00:00 UTC from which an offset is in force, and that offset
in seconds west or east of UTC. After the last change its offset stays.

## Main definitions

* `TypedRows.Calendar.OffsetTable` — a first offset and its changes.
* `TypedRows.Calendar.OffsetTable.utc`, `TypedRows.Calendar.OffsetTable.losAngeles` and so on —
  the tables.
-/

set_option autoImplicit false

namespace TypedRows.Calendar

/-- The offset before the first change, and the changes in ascending order. -/
structure OffsetTable where
  first : Int
  changes : List (Int × Int)
  deriving DecidableEq, Repr

namespace OffsetTable

/-- Seconds before the epoch. -/
def before (seconds : Nat) : Int := Int.negOfNat seconds

/-- Seconds after the epoch. -/
def after (seconds : Nat) : Int := Int.ofNat seconds

/-- Seconds west of UTC. -/
def west (seconds : Nat) : Int := Int.negOfNat seconds

/-- Seconds east of UTC. -/
def east (seconds : Nat) : Int := Int.ofNat seconds

/-- The offset of UTC, which never changes. -/
def utc : OffsetTable where
  first := 0
  changes := []

/-- The changes of America/Los_Angeles. -/
def losAngeles : OffsetTable where
  first := west 28378
  changes :=
   [(before 2717640000, west 28800), (before 1633269600, west 25200),
    (before 1615129200, west 28800), (before 1601820000, west 25200),
    (before 1583679600, west 28800), (before 880207200, west 25200),
    (before 765385200, west 28800), (before 687967140, west 25200),
    (before 662655600, west 28800), (before 620838000, west 25200),
    (before 608137200, west 28800), (before 589388400, west 25200),
    (before 576082800, west 28800), (before 557938800, west 25200),
    (before 544633200, west 28800), (before 526489200, west 25200),
    (before 513183600, west 28800), (before 495039600, west 25200),
    (before 481734000, west 28800), (before 463590000, west 25200),
    (before 450284400, west 28800), (before 431535600, west 25200),
    (before 418230000, west 28800), (before 400086000, west 25200),
    (before 386780400, west 28800), (before 368636400, west 25200),
    (before 355330800, west 28800), (before 337186800, west 25200),
    (before 323881200, west 28800), (before 305737200, west 25200),
    (before 292431600, west 28800), (before 273682800, west 25200),
    (before 260982000, west 28800), (before 242233200, west 25200),
    (before 226508400, west 28800), (before 210783600, west 25200),
    (before 195058800, west 28800), (before 179334000, west 25200),
    (before 163609200, west 28800), (before 147884400, west 25200),
    (before 131554800, west 28800), (before 116434800, west 25200),
    (before 100105200, west 28800), (before 84376800, west 25200), (before 68655600, west 28800),
    (before 52927200, west 25200), (before 37206000, west 28800), (before 21477600, west 25200),
    (before 5756400, west 28800), (after 9972000, west 25200), (after 25693200, west 28800),
    (after 41421600, west 25200), (after 57747600, west 28800), (after 73476000, west 25200),
    (after 89197200, west 28800), (after 104925600, west 25200), (after 120646800, west 28800),
    (after 126698400, west 25200), (after 152096400, west 28800), (after 162381600, west 25200),
    (after 183546000, west 28800), (after 199274400, west 25200), (after 215600400, west 28800),
    (after 230724000, west 25200), (after 247050000, west 28800), (after 262778400, west 25200),
    (after 278499600, west 28800), (after 294228000, west 25200), (after 309949200, west 28800),
    (after 325677600, west 25200), (after 341398800, west 28800), (after 357127200, west 25200),
    (after 372848400, west 28800), (after 388576800, west 25200), (after 404902800, west 28800),
    (after 420026400, west 25200), (after 436352400, west 28800), (after 452080800, west 25200),
    (after 467802000, west 28800), (after 483530400, west 25200), (after 499251600, west 28800),
    (after 514980000, west 25200), (after 530701200, west 28800), (after 544615200, west 25200),
    (after 562150800, west 28800), (after 576064800, west 25200), (after 594205200, west 28800),
    (after 607514400, west 25200), (after 625654800, west 28800), (after 638964000, west 25200),
    (after 657104400, west 28800), (after 671018400, west 25200), (after 688554000, west 28800),
    (after 702468000, west 25200), (after 720003600, west 28800), (after 733917600, west 25200),
    (after 752058000, west 28800), (after 765367200, west 25200), (after 783507600, west 28800),
    (after 796816800, west 25200), (after 814957200, west 28800), (after 828871200, west 25200),
    (after 846406800, west 28800), (after 860320800, west 25200), (after 877856400, west 28800),
    (after 891770400, west 25200), (after 909306000, west 28800), (after 923220000, west 25200),
    (after 941360400, west 28800), (after 954669600, west 25200), (after 972810000, west 28800),
    (after 986119200, west 25200), (after 1004259600, west 28800), (after 1018173600, west 25200),
    (after 1035709200, west 28800), (after 1049623200, west 25200),
    (after 1067158800, west 28800), (after 1081072800, west 25200),
    (after 1099213200, west 28800), (after 1112522400, west 25200),
    (after 1130662800, west 28800), (after 1143972000, west 25200),
    (after 1162112400, west 28800), (after 1173607200, west 25200),
    (after 1194166800, west 28800), (after 1205056800, west 25200),
    (after 1225616400, west 28800), (after 1236506400, west 25200),
    (after 1257066000, west 28800), (after 1268560800, west 25200),
    (after 1289120400, west 28800), (after 1300010400, west 25200),
    (after 1320570000, west 28800), (after 1331460000, west 25200),
    (after 1352019600, west 28800), (after 1362909600, west 25200),
    (after 1383469200, west 28800), (after 1394359200, west 25200),
    (after 1414918800, west 28800), (after 1425808800, west 25200),
    (after 1446368400, west 28800), (after 1457863200, west 25200),
    (after 1478422800, west 28800), (after 1489312800, west 25200),
    (after 1509872400, west 28800), (after 1520762400, west 25200),
    (after 1541322000, west 28800), (after 1552212000, west 25200),
    (after 1572771600, west 28800), (after 1583661600, west 25200),
    (after 1604221200, west 28800), (after 1615716000, west 25200),
    (after 1636275600, west 28800), (after 1647165600, west 25200),
    (after 1667725200, west 28800), (after 1678615200, west 25200),
    (after 1699174800, west 28800), (after 1710064800, west 25200),
    (after 1730624400, west 28800), (after 1741514400, west 25200),
    (after 1762074000, west 28800), (after 1772964000, west 25200),
    (after 1793523600, west 28800), (after 1805018400, west 25200),
    (after 1825578000, west 28800), (after 1836468000, west 25200),
    (after 1857027600, west 28800), (after 1867917600, west 25200),
    (after 1888477200, west 28800), (after 1899367200, west 25200),
    (after 1919926800, west 28800), (after 1930816800, west 25200),
    (after 1951376400, west 28800), (after 1962871200, west 25200),
    (after 1983430800, west 28800), (after 1994320800, west 25200),
    (after 2014880400, west 28800), (after 2025770400, west 25200),
    (after 2046330000, west 28800), (after 2057220000, west 25200),
    (after 2077779600, west 28800), (after 2088669600, west 25200),
    (after 2109229200, west 28800), (after 2120119200, west 25200),
    (after 2140678800, west 28800), (after 2152173600, west 25200),
    (after 2172733200, west 28800), (after 2183623200, west 25200),
    (after 2204182800, west 28800), (after 2215072800, west 25200),
    (after 2235632400, west 28800), (after 2246522400, west 25200),
    (after 2267082000, west 28800), (after 2277972000, west 25200),
    (after 2298531600, west 28800), (after 2309421600, west 25200),
    (after 2329981200, west 28800), (after 2341476000, west 25200),
    (after 2362035600, west 28800), (after 2372925600, west 25200),
    (after 2393485200, west 28800), (after 2404375200, west 25200),
    (after 2424934800, west 28800), (after 2435824800, west 25200),
    (after 2456384400, west 28800), (after 2467274400, west 25200),
    (after 2487834000, west 28800), (after 2499328800, west 25200),
    (after 2519888400, west 28800), (after 2530778400, west 25200),
    (after 2551338000, west 28800), (after 2562228000, west 25200),
    (after 2582787600, west 28800), (after 2593677600, west 25200),
    (after 2614237200, west 28800), (after 2625127200, west 25200),
    (after 2645686800, west 28800), (after 2656576800, west 25200),
    (after 2677136400, west 28800), (after 2688631200, west 25200),
    (after 2709190800, west 28800), (after 2720080800, west 25200),
    (after 2740640400, west 28800), (after 2751530400, west 25200),
    (after 2772090000, west 28800), (after 2782980000, west 25200),
    (after 2803539600, west 28800), (after 2814429600, west 25200),
    (after 2834989200, west 28800), (after 2846484000, west 25200),
    (after 2867043600, west 28800), (after 2877933600, west 25200),
    (after 2898493200, west 28800), (after 2909383200, west 25200),
    (after 2929942800, west 28800), (after 2940832800, west 25200),
    (after 2961392400, west 28800), (after 2972282400, west 25200),
    (after 2992842000, west 28800), (after 3003732000, west 25200),
    (after 3024291600, west 28800), (after 3035786400, west 25200),
    (after 3056346000, west 28800), (after 3067236000, west 25200),
    (after 3087795600, west 28800), (after 3098685600, west 25200),
    (after 3119245200, west 28800), (after 3130135200, west 25200),
    (after 3150694800, west 28800), (after 3161584800, west 25200),
    (after 3182144400, west 28800), (after 3193034400, west 25200),
    (after 3213594000, west 28800), (after 3225088800, west 25200),
    (after 3245648400, west 28800), (after 3256538400, west 25200),
    (after 3277098000, west 28800), (after 3287988000, west 25200),
    (after 3308547600, west 28800), (after 3319437600, west 25200),
    (after 3339997200, west 28800), (after 3350887200, west 25200),
    (after 3371446800, west 28800), (after 3382941600, west 25200),
    (after 3403501200, west 28800), (after 3414391200, west 25200),
    (after 3434950800, west 28800), (after 3445840800, west 25200),
    (after 3466400400, west 28800), (after 3477290400, west 25200),
    (after 3497850000, west 28800), (after 3508740000, west 25200),
    (after 3529299600, west 28800), (after 3540189600, west 25200),
    (after 3560749200, west 28800), (after 3572244000, west 25200),
    (after 3592803600, west 28800), (after 3603693600, west 25200),
    (after 3624253200, west 28800), (after 3635143200, west 25200),
    (after 3655702800, west 28800), (after 3666592800, west 25200),
    (after 3687152400, west 28800), (after 3698042400, west 25200),
    (after 3718602000, west 28800), (after 3730096800, west 25200),
    (after 3750656400, west 28800), (after 3761546400, west 25200),
    (after 3782106000, west 28800), (after 3792996000, west 25200),
    (after 3813555600, west 28800), (after 3824445600, west 25200),
    (after 3845005200, west 28800), (after 3855895200, west 25200),
    (after 3876454800, west 28800), (after 3887344800, west 25200),
    (after 3907904400, west 28800), (after 3919399200, west 25200),
    (after 3939958800, west 28800), (after 3950848800, west 25200),
    (after 3971408400, west 28800), (after 3982298400, west 25200),
    (after 4002858000, west 28800), (after 4013748000, west 25200),
    (after 4034307600, west 28800), (after 4045197600, west 25200),
    (after 4065757200, west 28800), (after 4076647200, west 25200), (after 4097206800, west 28800)]

/-- The changes of Asia/Kolkata. -/
def kolkata : OffsetTable where
  first := east 21208
  changes :=
   [(before 3645237208, east 21200), (before 3155694800, east 19270),
    (before 2019705670, east 19800), (before 891581400, east 23400),
    (before 872058600, east 19800), (before 862637400, east 23400), (before 764145000, east 19800)]

/-- The changes of Europe/London. -/
def london : OffsetTable where
  first := west 75
  changes :=
   [(before 3852662325, east 0), (before 1691964000, east 3600), (before 1680472800, east 0),
    (before 1664143200, east 3600), (before 1650146400, east 0), (before 1633903200, east 3600),
    (before 1617487200, east 0), (before 1601848800, east 3600), (before 1586037600, east 0),
    (before 1570399200, east 3600), (before 1552168800, east 0), (before 1538344800, east 3600),
    (before 1522533600, east 0), (before 1507500000, east 3600), (before 1490565600, east 0),
    (before 1473631200, east 3600), (before 1460930400, east 0), (before 1442786400, east 3600),
    (before 1428876000, east 0), (before 1410732000, east 3600), (before 1396216800, east 0),
    (before 1379282400, east 3600), (before 1364767200, east 0), (before 1348437600, east 3600),
    (before 1333317600, east 0), (before 1315778400, east 3600), (before 1301263200, east 0),
    (before 1284328800, east 3600), (before 1269813600, east 0), (before 1253484000, east 3600),
    (before 1238364000, east 0), (before 1221429600, east 3600), (before 1206914400, east 0),
    (before 1189980000, east 3600), (before 1175464800, east 0), (before 1159135200, east 3600),
    (before 1143410400, east 0), (before 1126476000, east 3600), (before 1111960800, east 0),
    (before 1095631200, east 3600), (before 1080511200, east 0), (before 1063576800, east 3600),
    (before 1049061600, east 0), (before 1032127200, east 3600), (before 1017612000, east 0),
    (before 1001282400, east 3600), (before 986162400, east 0), (before 969228000, east 3600),
    (before 950479200, east 0), (before 942012000, east 3600), (before 904518000, east 7200),
    (before 896050800, east 3600), (before 875487600, east 7200), (before 864601200, east 3600),
    (before 844038000, east 7200), (before 832546800, east 3600), (before 812588400, east 7200),
    (before 798073200, east 3600), (before 781052400, east 7200), (before 772066800, east 3600),
    (before 764805600, east 0), (before 748476000, east 3600), (before 733356000, east 0),
    (before 719445600, east 3600), (before 717030000, east 7200), (before 706748400, east 3600),
    (before 699487200, east 0), (before 687996000, east 3600), (before 668037600, east 0),
    (before 654732000, east 3600), (before 636588000, east 0), (before 622072800, east 3600),
    (before 605743200, east 0), (before 590623200, east 3600), (before 574293600, east 0),
    (before 558568800, east 3600), (before 542239200, east 0), (before 527119200, east 3600),
    (before 512604000, east 0), (before 496274400, east 3600), (before 481154400, east 0),
    (before 464220000, east 3600), (before 449704800, east 0), (before 432165600, east 3600),
    (before 417650400, east 0), (before 401320800, east 3600), (before 386200800, east 0),
    (before 369266400, east 3600), (before 354751200, east 0), (before 337816800, east 3600),
    (before 323301600, east 0), (before 306972000, east 3600), (before 291852000, east 0),
    (before 276732000, east 3600), (before 257983200, east 0), (before 245282400, east 3600),
    (before 226533600, east 0), (before 213228000, east 3600), (before 195084000, east 0),
    (before 182383200, east 3600), (before 163634400, east 0), (before 150933600, east 3600),
    (before 132184800, east 0), (before 119484000, east 3600), (before 100735200, east 0),
    (before 88034400, east 3600), (before 68680800, east 0), (before 59004000, east 3600),
    (after 57722400, east 0), (after 69818400, east 3600), (after 89172000, east 0),
    (after 101268000, east 3600), (after 120621600, east 0), (after 132717600, east 3600),
    (after 152071200, east 0), (after 164167200, east 3600), (after 183520800, east 0),
    (after 196221600, east 3600), (after 214970400, east 0), (after 227671200, east 3600),
    (after 246420000, east 0), (after 259120800, east 3600), (after 278474400, east 0),
    (after 290570400, east 3600), (after 309924000, east 0), (after 322020000, east 3600),
    (after 341373600, east 0), (after 354675600, east 3600), (after 372819600, east 0),
    (after 386125200, east 3600), (after 404269200, east 0), (after 417574800, east 3600),
    (after 435718800, east 0), (after 449024400, east 3600), (after 467773200, east 0),
    (after 481078800, east 3600), (after 499222800, east 0), (after 512528400, east 3600),
    (after 530672400, east 0), (after 543978000, east 3600), (after 562122000, east 0),
    (after 575427600, east 3600), (after 593571600, east 0), (after 606877200, east 3600),
    (after 625626000, east 0), (after 638326800, east 3600), (after 657075600, east 0),
    (after 670381200, east 3600), (after 688525200, east 0), (after 701830800, east 3600),
    (after 719974800, east 0), (after 733280400, east 3600), (after 751424400, east 0),
    (after 764730000, east 3600), (after 782874000, east 0), (after 796179600, east 3600),
    (after 814323600, east 0), (after 828234000, east 3600), (after 846378000, east 0),
    (after 859683600, east 3600), (after 877827600, east 0), (after 891133200, east 3600),
    (after 909277200, east 0), (after 922582800, east 3600), (after 941331600, east 0),
    (after 954032400, east 3600), (after 972781200, east 0), (after 985482000, east 3600),
    (after 1004230800, east 0), (after 1017536400, east 3600), (after 1035680400, east 0),
    (after 1048986000, east 3600), (after 1067130000, east 0), (after 1080435600, east 3600),
    (after 1099184400, east 0), (after 1111885200, east 3600), (after 1130634000, east 0),
    (after 1143334800, east 3600), (after 1162083600, east 0), (after 1174784400, east 3600),
    (after 1193533200, east 0), (after 1206838800, east 3600), (after 1224982800, east 0),
    (after 1238288400, east 3600), (after 1256432400, east 0), (after 1269738000, east 3600),
    (after 1288486800, east 0), (after 1301187600, east 3600), (after 1319936400, east 0),
    (after 1332637200, east 3600), (after 1351386000, east 0), (after 1364691600, east 3600),
    (after 1382835600, east 0), (after 1396141200, east 3600), (after 1414285200, east 0),
    (after 1427590800, east 3600), (after 1445734800, east 0), (after 1459040400, east 3600),
    (after 1477789200, east 0), (after 1490490000, east 3600), (after 1509238800, east 0),
    (after 1521939600, east 3600), (after 1540688400, east 0), (after 1553994000, east 3600),
    (after 1572138000, east 0), (after 1585443600, east 3600), (after 1603587600, east 0),
    (after 1616893200, east 3600), (after 1635642000, east 0), (after 1648342800, east 3600),
    (after 1667091600, east 0), (after 1679792400, east 3600), (after 1698541200, east 0),
    (after 1711846800, east 3600), (after 1729990800, east 0), (after 1743296400, east 3600),
    (after 1761440400, east 0), (after 1774746000, east 3600), (after 1792890000, east 0),
    (after 1806195600, east 3600), (after 1824944400, east 0), (after 1837645200, east 3600),
    (after 1856394000, east 0), (after 1869094800, east 3600), (after 1887843600, east 0),
    (after 1901149200, east 3600), (after 1919293200, east 0), (after 1932598800, east 3600),
    (after 1950742800, east 0), (after 1964048400, east 3600), (after 1982797200, east 0),
    (after 1995498000, east 3600), (after 2014246800, east 0), (after 2026947600, east 3600),
    (after 2045696400, east 0), (after 2058397200, east 3600), (after 2077146000, east 0),
    (after 2090451600, east 3600), (after 2108595600, east 0), (after 2121901200, east 3600),
    (after 2140045200, east 0), (after 2153350800, east 3600), (after 2172099600, east 0),
    (after 2184800400, east 3600), (after 2203549200, east 0), (after 2216250000, east 3600),
    (after 2234998800, east 0), (after 2248304400, east 3600), (after 2266448400, east 0),
    (after 2279754000, east 3600), (after 2297898000, east 0), (after 2311203600, east 3600),
    (after 2329347600, east 0), (after 2342653200, east 3600), (after 2361402000, east 0),
    (after 2374102800, east 3600), (after 2392851600, east 0), (after 2405552400, east 3600),
    (after 2424301200, east 0), (after 2437606800, east 3600), (after 2455750800, east 0),
    (after 2469056400, east 3600), (after 2487200400, east 0), (after 2500506000, east 3600),
    (after 2519254800, east 0), (after 2531955600, east 3600), (after 2550704400, east 0),
    (after 2563405200, east 3600), (after 2582154000, east 0), (after 2595459600, east 3600),
    (after 2613603600, east 0), (after 2626909200, east 3600), (after 2645053200, east 0),
    (after 2658358800, east 3600), (after 2676502800, east 0), (after 2689808400, east 3600),
    (after 2708557200, east 0), (after 2721258000, east 3600), (after 2740006800, east 0),
    (after 2752707600, east 3600), (after 2771456400, east 0), (after 2784762000, east 3600),
    (after 2802906000, east 0), (after 2816211600, east 3600), (after 2834355600, east 0),
    (after 2847661200, east 3600), (after 2866410000, east 0), (after 2879110800, east 3600),
    (after 2897859600, east 0), (after 2910560400, east 3600), (after 2929309200, east 0),
    (after 2942010000, east 3600), (after 2960758800, east 0), (after 2974064400, east 3600),
    (after 2992208400, east 0), (after 3005514000, east 3600), (after 3023658000, east 0),
    (after 3036963600, east 3600), (after 3055712400, east 0), (after 3068413200, east 3600),
    (after 3087162000, east 0), (after 3099862800, east 3600), (after 3118611600, east 0),
    (after 3131917200, east 3600), (after 3150061200, east 0), (after 3163366800, east 3600),
    (after 3181510800, east 0), (after 3194816400, east 3600), (after 3212960400, east 0),
    (after 3226266000, east 3600), (after 3245014800, east 0), (after 3257715600, east 3600),
    (after 3276464400, east 0), (after 3289165200, east 3600), (after 3307914000, east 0),
    (after 3321219600, east 3600), (after 3339363600, east 0), (after 3352669200, east 3600),
    (after 3370813200, east 0), (after 3384118800, east 3600), (after 3402867600, east 0),
    (after 3415568400, east 3600), (after 3434317200, east 0), (after 3447018000, east 3600),
    (after 3465766800, east 0), (after 3479072400, east 3600), (after 3497216400, east 0),
    (after 3510522000, east 3600), (after 3528666000, east 0), (after 3541971600, east 3600),
    (after 3560115600, east 0), (after 3573421200, east 3600), (after 3592170000, east 0),
    (after 3604870800, east 3600), (after 3623619600, east 0), (after 3636320400, east 3600),
    (after 3655069200, east 0), (after 3668374800, east 3600), (after 3686518800, east 0),
    (after 3699824400, east 3600), (after 3717968400, east 0), (after 3731274000, east 3600),
    (after 3750022800, east 0), (after 3762723600, east 3600), (after 3781472400, east 0),
    (after 3794173200, east 3600), (after 3812922000, east 0), (after 3825622800, east 3600),
    (after 3844371600, east 0), (after 3857677200, east 3600), (after 3875821200, east 0),
    (after 3889126800, east 3600), (after 3907270800, east 0), (after 3920576400, east 3600),
    (after 3939325200, east 0), (after 3952026000, east 3600), (after 3970774800, east 0),
    (after 3983475600, east 3600), (after 4002224400, east 0), (after 4015530000, east 3600),
    (after 4033674000, east 0), (after 4046979600, east 3600), (after 4065123600, east 0),
    (after 4078429200, east 3600), (after 4096573200, east 0)]

/-- The changes of America/Sao_Paulo. -/
def saoPaulo : OffsetTable where
  first := west 11188
  changes :=
   [(before 1767214412, west 10800), (before 1206957600, west 7200),
    (before 1191362400, west 10800), (before 1175374800, west 7200),
    (before 1159826400, west 10800), (before 633819600, west 7200),
    (before 622069200, west 10800), (before 602283600, west 7200), (before 591832800, west 10800),
    (before 570747600, west 7200), (before 560210400, west 10800), (before 539125200, west 7200),
    (before 531352800, west 10800), (before 195426000, west 7200), (before 184197600, west 10800),
    (before 155163600, west 7200), (before 150069600, west 10800), (before 128898000, west 7200),
    (before 121125600, west 10800), (before 99954000, west 7200), (before 89589600, west 10800),
    (before 68418000, west 7200), (before 57967200, west 10800), (after 499748400, west 7200),
    (after 511236000, west 10800), (after 530593200, west 7200), (after 540266400, west 10800),
    (after 562129200, west 7200), (after 571197600, west 10800), (after 592974000, west 7200),
    (after 602042400, west 10800), (after 624423600, west 7200), (after 634701600, west 10800),
    (after 656478000, west 7200), (after 666756000, west 10800), (after 687927600, west 7200),
    (after 697600800, west 10800), (after 719982000, west 7200), (after 728445600, west 10800),
    (after 750826800, west 7200), (after 761709600, west 10800), (after 782276400, west 7200),
    (after 793159200, west 10800), (after 813726000, west 7200), (after 824004000, west 10800),
    (after 844570800, west 7200), (after 856058400, west 10800), (after 876106800, west 7200),
    (after 888717600, west 10800), (after 908074800, west 7200), (after 919562400, west 10800),
    (after 938919600, west 7200), (after 951616800, west 10800), (after 970974000, west 7200),
    (after 982461600, west 10800), (after 1003028400, west 7200), (after 1013911200, west 10800),
    (after 1036292400, west 7200), (after 1045360800, west 10800), (after 1066532400, west 7200),
    (after 1076810400, west 10800), (after 1099364400, west 7200), (after 1108864800, west 10800),
    (after 1129431600, west 7200), (after 1140314400, west 10800), (after 1162695600, west 7200),
    (after 1172368800, west 10800), (after 1192330800, west 7200), (after 1203213600, west 10800),
    (after 1224385200, west 7200), (after 1234663200, west 10800), (after 1255834800, west 7200),
    (after 1266717600, west 10800), (after 1287284400, west 7200), (after 1298167200, west 10800),
    (after 1318734000, west 7200), (after 1330221600, west 10800), (after 1350788400, west 7200),
    (after 1361066400, west 10800), (after 1382238000, west 7200), (after 1392516000, west 10800),
    (after 1413687600, west 7200), (after 1424570400, west 10800), (after 1445137200, west 7200),
    (after 1456020000, west 10800), (after 1476586800, west 7200), (after 1487469600, west 10800),
    (after 1508036400, west 7200), (after 1518919200, west 10800), (after 1541300400, west 7200),
    (after 1550368800, west 10800)]

/-- The changes of Australia/Lord_Howe. -/
def lordHowe : OffsetTable where
  first := east 38180
  changes :=
   [(before 2364114980, east 36000), (after 352216800, east 37800), (after 372785400, east 41400),
    (after 384273000, east 37800), (after 404839800, east 41400), (after 415722600, east 37800),
    (after 436289400, east 41400), (after 447172200, east 37800), (after 467739000, east 41400),
    (after 478621800, east 37800), (after 499188600, east 39600), (after 511282800, east 37800),
    (after 530033400, east 39600), (after 542732400, east 37800), (after 562087800, east 39600),
    (after 574786800, east 37800), (after 594142200, east 39600), (after 606236400, east 37800),
    (after 625591800, east 39600), (after 636476400, east 37800), (after 657041400, east 39600),
    (after 667926000, east 37800), (after 688491000, east 39600), (after 699375600, east 37800),
    (after 719940600, east 39600), (after 731430000, east 37800), (after 751995000, east 39600),
    (after 762879600, east 37800), (after 783444600, east 39600), (after 794329200, east 37800),
    (after 814894200, east 39600), (after 828198000, east 37800), (after 846343800, east 39600),
    (after 859647600, east 37800), (after 877793400, east 39600), (after 891097200, east 37800),
    (after 909243000, east 39600), (after 922546800, east 37800), (after 941297400, east 39600),
    (after 953996400, east 37800), (after 967303800, east 39600), (after 985446000, east 37800),
    (after 1004196600, east 39600), (after 1017500400, east 37800),
    (after 1035646200, east 39600), (after 1048950000, east 37800),
    (after 1067095800, east 39600), (after 1080399600, east 37800),
    (after 1099150200, east 39600), (after 1111849200, east 37800),
    (after 1130599800, east 39600), (after 1143903600, east 37800),
    (after 1162049400, east 39600), (after 1174748400, east 37800),
    (after 1193499000, east 39600), (after 1207407600, east 37800),
    (after 1223134200, east 39600), (after 1238857200, east 37800),
    (after 1254583800, east 39600), (after 1270306800, east 37800),
    (after 1286033400, east 39600), (after 1301756400, east 37800),
    (after 1317483000, east 39600), (after 1333206000, east 37800),
    (after 1349537400, east 39600), (after 1365260400, east 37800),
    (after 1380987000, east 39600), (after 1396710000, east 37800),
    (after 1412436600, east 39600), (after 1428159600, east 37800),
    (after 1443886200, east 39600), (after 1459609200, east 37800),
    (after 1475335800, east 39600), (after 1491058800, east 37800),
    (after 1506785400, east 39600), (after 1522508400, east 37800),
    (after 1538839800, east 39600), (after 1554562800, east 37800),
    (after 1570289400, east 39600), (after 1586012400, east 37800),
    (after 1601739000, east 39600), (after 1617462000, east 37800),
    (after 1633188600, east 39600), (after 1648911600, east 37800),
    (after 1664638200, east 39600), (after 1680361200, east 37800),
    (after 1696087800, east 39600), (after 1712415600, east 37800),
    (after 1728142200, east 39600), (after 1743865200, east 37800),
    (after 1759591800, east 39600), (after 1775314800, east 37800),
    (after 1791041400, east 39600), (after 1806764400, east 37800),
    (after 1822491000, east 39600), (after 1838214000, east 37800),
    (after 1853940600, east 39600), (after 1869663600, east 37800),
    (after 1885995000, east 39600), (after 1901718000, east 37800),
    (after 1917444600, east 39600), (after 1933167600, east 37800),
    (after 1948894200, east 39600), (after 1964617200, east 37800),
    (after 1980343800, east 39600), (after 1996066800, east 37800),
    (after 2011793400, east 39600), (after 2027516400, east 37800),
    (after 2043243000, east 39600), (after 2058966000, east 37800),
    (after 2075297400, east 39600), (after 2091020400, east 37800),
    (after 2106747000, east 39600), (after 2122470000, east 37800),
    (after 2138196600, east 39600), (after 2153919600, east 37800),
    (after 2169646200, east 39600), (after 2185369200, east 37800),
    (after 2201095800, east 39600), (after 2216818800, east 37800),
    (after 2233150200, east 39600), (after 2248873200, east 37800),
    (after 2264599800, east 39600), (after 2280322800, east 37800),
    (after 2296049400, east 39600), (after 2311772400, east 37800),
    (after 2327499000, east 39600), (after 2343222000, east 37800),
    (after 2358948600, east 39600), (after 2374671600, east 37800),
    (after 2390398200, east 39600), (after 2406121200, east 37800),
    (after 2422452600, east 39600), (after 2438175600, east 37800),
    (after 2453902200, east 39600), (after 2469625200, east 37800),
    (after 2485351800, east 39600), (after 2501074800, east 37800),
    (after 2516801400, east 39600), (after 2532524400, east 37800),
    (after 2548251000, east 39600), (after 2563974000, east 37800),
    (after 2579700600, east 39600), (after 2596028400, east 37800),
    (after 2611755000, east 39600), (after 2627478000, east 37800),
    (after 2643204600, east 39600), (after 2658927600, east 37800),
    (after 2674654200, east 39600), (after 2690377200, east 37800),
    (after 2706103800, east 39600), (after 2721826800, east 37800),
    (after 2737553400, east 39600), (after 2753276400, east 37800),
    (after 2769607800, east 39600), (after 2785330800, east 37800),
    (after 2801057400, east 39600), (after 2816780400, east 37800),
    (after 2832507000, east 39600), (after 2848230000, east 37800),
    (after 2863956600, east 39600), (after 2879679600, east 37800),
    (after 2895406200, east 39600), (after 2911129200, east 37800),
    (after 2926855800, east 39600), (after 2942578800, east 37800),
    (after 2958910200, east 39600), (after 2974633200, east 37800),
    (after 2990359800, east 39600), (after 3006082800, east 37800),
    (after 3021809400, east 39600), (after 3037532400, east 37800),
    (after 3053259000, east 39600), (after 3068982000, east 37800),
    (after 3084708600, east 39600), (after 3100431600, east 37800),
    (after 3116763000, east 39600), (after 3132486000, east 37800),
    (after 3148212600, east 39600), (after 3163935600, east 37800),
    (after 3179662200, east 39600), (after 3195385200, east 37800),
    (after 3211111800, east 39600), (after 3226834800, east 37800),
    (after 3242561400, east 39600), (after 3258284400, east 37800),
    (after 3274011000, east 39600), (after 3289734000, east 37800),
    (after 3306065400, east 39600), (after 3321788400, east 37800),
    (after 3337515000, east 39600), (after 3353238000, east 37800),
    (after 3368964600, east 39600), (after 3384687600, east 37800),
    (after 3400414200, east 39600), (after 3416137200, east 37800),
    (after 3431863800, east 39600), (after 3447586800, east 37800),
    (after 3463313400, east 39600), (after 3479641200, east 37800),
    (after 3495367800, east 39600), (after 3511090800, east 37800),
    (after 3526817400, east 39600), (after 3542540400, east 37800),
    (after 3558267000, east 39600), (after 3573990000, east 37800),
    (after 3589716600, east 39600), (after 3605439600, east 37800),
    (after 3621166200, east 39600), (after 3636889200, east 37800),
    (after 3653220600, east 39600), (after 3668943600, east 37800),
    (after 3684670200, east 39600), (after 3700393200, east 37800),
    (after 3716119800, east 39600), (after 3731842800, east 37800),
    (after 3747569400, east 39600), (after 3763292400, east 37800),
    (after 3779019000, east 39600), (after 3794742000, east 37800),
    (after 3810468600, east 39600), (after 3826191600, east 37800),
    (after 3842523000, east 39600), (after 3858246000, east 37800),
    (after 3873972600, east 39600), (after 3889695600, east 37800),
    (after 3905422200, east 39600), (after 3921145200, east 37800),
    (after 3936871800, east 39600), (after 3952594800, east 37800),
    (after 3968321400, east 39600), (after 3984044400, east 37800),
    (after 4000375800, east 39600), (after 4016098800, east 37800),
    (after 4031825400, east 39600), (after 4047548400, east 37800),
    (after 4063275000, east 39600), (after 4078998000, east 37800), (after 4094724600, east 39600)]

/-- The changes of Pacific/Apia. -/
def apia : OffsetTable where
  first := east 45184
  changes :=
   [(before 2445424384, west 41216), (before 1861878784, west 41400),
    (before 631110600, west 39600), (after 1285498800, west 36000),
    (after 1301752800, west 39600), (after 1316872800, west 36000),
    (after 1325239200, east 50400), (after 1333202400, east 46800),
    (after 1348927200, east 50400), (after 1365256800, east 46800),
    (after 1380376800, east 50400), (after 1396706400, east 46800),
    (after 1411826400, east 50400), (after 1428156000, east 46800),
    (after 1443276000, east 50400), (after 1459605600, east 46800),
    (after 1474725600, east 50400), (after 1491055200, east 46800),
    (after 1506175200, east 50400), (after 1522504800, east 46800),
    (after 1538229600, east 50400), (after 1554559200, east 46800),
    (after 1569679200, east 50400), (after 1586008800, east 46800),
    (after 1601128800, east 50400), (after 1617458400, east 46800)]

/-- The changes of Europe/Moscow. -/
def moscow : OffsetTable where
  first := east 9017
  changes :=
   [(before 1688265017, east 9079), (before 1656819079, east 12679),
    (before 1641353479, east 9079), (before 1627965079, east 16279),
    (before 1618716679, east 12679), (before 1596429079, east 16279),
    (before 1593820800, east 14400), (before 1589860800, east 10800),
    (before 1542427200, east 14400), (before 1539493200, east 18000),
    (before 1525323600, east 14400), (before 1522728000, east 10800),
    (before 1491188400, east 7200), (before 1247536800, east 10800),
    (after 354920400, east 14400), (after 370728000, east 10800), (after 386456400, east 14400),
    (after 402264000, east 10800), (after 417992400, east 14400), (after 433800000, east 10800),
    (after 449614800, east 14400), (after 465346800, east 10800), (after 481071600, east 14400),
    (after 496796400, east 10800), (after 512521200, east 14400), (after 528246000, east 10800),
    (after 543970800, east 14400), (after 559695600, east 10800), (after 575420400, east 14400),
    (after 591145200, east 10800), (after 606870000, east 14400), (after 622594800, east 10800),
    (after 638319600, east 14400), (after 654649200, east 10800), (after 686102400, east 7200),
    (after 695779200, east 10800), (after 701823600, east 14400), (after 717548400, east 10800),
    (after 733273200, east 14400), (after 748998000, east 10800), (after 764722800, east 14400),
    (after 780447600, east 10800), (after 796172400, east 14400), (after 811897200, east 10800),
    (after 828226800, east 14400), (after 846370800, east 10800), (after 859676400, east 14400),
    (after 877820400, east 10800), (after 891126000, east 14400), (after 909270000, east 10800),
    (after 922575600, east 14400), (after 941324400, east 10800), (after 954025200, east 14400),
    (after 972774000, east 10800), (after 985474800, east 14400), (after 1004223600, east 10800),
    (after 1017529200, east 14400), (after 1035673200, east 10800),
    (after 1048978800, east 14400), (after 1067122800, east 10800),
    (after 1080428400, east 14400), (after 1099177200, east 10800),
    (after 1111878000, east 14400), (after 1130626800, east 10800),
    (after 1143327600, east 14400), (after 1162076400, east 10800),
    (after 1174777200, east 14400), (after 1193526000, east 10800),
    (after 1206831600, east 14400), (after 1224975600, east 10800),
    (after 1238281200, east 14400), (after 1256425200, east 10800),
    (after 1269730800, east 14400), (after 1288479600, east 10800),
    (after 1301180400, east 14400), (after 1414274400, east 10800)]

end OffsetTable

end TypedRows.Calendar
