/-
  Recordwise.Zone.Table
  ─────────────────────
  **The offset changes of the tabulated zones.**

  Each zone lists the instants, in seconds from 1970-01-01 00:00:00 UTC, at
  which its offset changes, with the offset in seconds east of UTC that holds
  from there on.  Standard and summer time take turns for most of a zone's
  history, so a stretch of changes is given by its two offsets and its
  instants: those before 1970 by their distance from it, then the others.
  After the last change the last offset stays.
-/
import Recordwise.Zone.Basic

namespace Recordwise.Zone

/-- Changes at the instants to one offset and the other in turn. -/
def takeTurns (a b : Int) : List Int → List (Int × Int)
  | [] => []
  | t :: ts => (t, a) :: takeTurns b a ts

/-- Changes to one offset and the other in turn, at the instants `before`
1970, given as distances, and at those `since`. -/
def turns (a b : Int) (before since : List Nat) : List (Int × Int) :=
  takeTurns a b (before.map (fun n : Nat => -(n : Int)) ++ since.map (fun n : Nat => (n : Int)))

/-- The zone `Asia/Shanghai`. -/
def shanghai : Zone where
  name := "Asia/Shanghai"
  initial := 29143
  changes :=
    turns 28800 32400
      [2177481943, 1600675200, 1585904400, 933667200, 922093200, 908870400, 888829200, 881049600,
       767869200, 745833600, 733827600, 716889600, 699613200, 683884800, 670669200, 652348800,
       650019600]
      [515527200, 527014800, 545162400, 558464400, 577216800, 589914000, 608666400, 621968400,
       640116000, 653418000, 671565600, 684867600]

/-- The zone `America/New_York`. -/
def newYork : Zone where
  name := "America/New_York"
  initial := -17762
  changes :=
    turns (-18000) (-14400)
      [2717633038, 1633280400, 1615140000, 1601830800, 1583690400, 1570381200, 1551636000,
       1536512400, 1523210400, 1504458000, 1491760800, 1473008400, 1459706400, 1441558800,
       1428256800, 1410109200, 1396807200, 1378659600, 1365357600, 1347210000, 1333908000,
       1315155600, 1301853600, 1283706000, 1270404000, 1252256400, 1238954400, 1220806800,
       1207504800, 1189357200, 1176055200, 1157302800, 1144605600, 1125853200, 1112551200,
       1094403600, 1081101600, 1062954000, 1049652000, 1031504400, 1018202400, 1000054800,
       986752800, 968000400, 955303200, 936550800, 923248800, 905101200, 891799200, 880218000,
       765396000, 747248400, 733946400, 715798800, 702496800, 684349200, 671047200, 652899600,
       639597600, 620845200, 608148000, 589395600, 576093600, 557946000, 544644000, 526496400,
       513194400, 495046800, 481744800, 463597200, 447271200, 431542800, 415821600, 400093200,
       384372000, 368643600, 352922400, 337194000, 321472800, 305744400, 289418400, 273690000,
       257968800, 242240400, 226519200, 210790800, 195069600, 179341200, 163620000, 147891600,
       131565600, 116442000, 100116000, 84387600, 68666400, 52938000, 37216800, 21488400,
       5767200]
      [9961200, 25682400, 41410800, 57736800, 73465200, 89186400, 104914800, 120636000,
       126687600, 152085600, 162370800, 183535200, 199263600, 215589600, 230713200, 247039200,
       262767600, 278488800, 294217200, 309938400, 325666800, 341388000, 357116400, 372837600,
       388566000, 404892000, 420015600, 436341600, 452070000, 467791200, 483519600, 499240800,
       514969200, 530690400, 544604400, 562140000, 576054000, 594194400, 607503600, 625644000,
       638953200, 657093600, 671007600, 688543200, 702457200, 719992800, 733906800, 752047200,
       765356400, 783496800, 796806000, 814946400, 828860400, 846396000, 860310000, 877845600,
       891759600, 909295200, 923209200, 941349600, 954658800, 972799200, 986108400, 1004248800,
       1018162800, 1035698400, 1049612400, 1067148000, 1081062000, 1099202400, 1112511600,
       1130652000, 1143961200, 1162101600, 1173596400, 1194156000, 1205046000, 1225605600,
       1236495600, 1257055200, 1268550000, 1289109600, 1299999600, 1320559200, 1331449200,
       1352008800, 1362898800, 1383458400, 1394348400, 1414908000, 1425798000, 1446357600,
       1457852400, 1478412000, 1489302000, 1509861600, 1520751600, 1541311200, 1552201200,
       1572760800, 1583650800, 1604210400, 1615705200, 1636264800, 1647154800, 1667714400,
       1678604400, 1699164000, 1710054000, 1730613600, 1741503600, 1762063200, 1772953200,
       1793512800, 1805007600, 1825567200, 1836457200, 1857016800, 1867906800, 1888466400,
       1899356400, 1919916000, 1930806000, 1951365600, 1962860400, 1983420000, 1994310000,
       2014869600, 2025759600, 2046319200, 2057209200, 2077768800, 2088658800, 2109218400,
       2120108400, 2140668000, 2152162800, 2172722400, 2183612400, 2204172000, 2215062000,
       2235621600, 2246511600, 2267071200, 2277961200, 2298520800, 2309410800, 2329970400,
       2341465200, 2362024800, 2372914800, 2393474400, 2404364400, 2424924000, 2435814000,
       2456373600, 2467263600, 2487823200, 2499318000, 2519877600, 2530767600, 2551327200,
       2562217200, 2582776800, 2593666800, 2614226400, 2625116400, 2645676000, 2656566000,
       2677125600, 2688620400, 2709180000, 2720070000, 2740629600, 2751519600, 2772079200,
       2782969200, 2803528800, 2814418800, 2834978400, 2846473200, 2867032800, 2877922800,
       2898482400, 2909372400, 2929932000, 2940822000, 2961381600, 2972271600, 2992831200,
       3003721200, 3024280800, 3035775600, 3056335200, 3067225200, 3087784800, 3098674800,
       3119234400, 3130124400, 3150684000, 3161574000, 3182133600, 3193023600, 3213583200,
       3225078000, 3245637600, 3256527600, 3277087200, 3287977200, 3308536800, 3319426800,
       3339986400, 3350876400, 3371436000, 3382930800, 3403490400, 3414380400, 3434940000,
       3445830000, 3466389600, 3477279600, 3497839200, 3508729200, 3529288800, 3540178800,
       3560738400, 3572233200, 3592792800, 3603682800, 3624242400, 3635132400, 3655692000,
       3666582000, 3687141600, 3698031600, 3718591200, 3730086000, 3750645600, 3761535600,
       3782095200, 3792985200, 3813544800, 3824434800, 3844994400, 3855884400, 3876444000,
       3887334000, 3907893600, 3919388400, 3939948000, 3950838000, 3971397600, 3982287600,
       4002847200, 4013737200, 4034296800, 4045186800, 4065746400, 4076636400, 4097196000]

/-- The zone `Europe/Berlin`. -/
def berlin : Zone where
  name := "Europe/Berlin"
  initial := 3208
  changes :=
    turns 3600 7200
      [2422054408, 1693706400, 1680483600, 1663455600, 1650150000, 1632006000, 1618700400,
       938905200, 857257200, 844556400, 828226800, 812502000, 796777200, 781052400]
      [] ++
    [(-776563200, 10800)] ++
    turns 7200 3600
      [765936000, 761180400, 748479600, 733273200, 717631200]
      [] ++
    [(-714610800, 10800)] ++
    turns 7200 3600
      [710380800, 701910000, 684975600, 670460400, 654130800, 639010800]
      [323830800, 338950800, 354675600, 370400400, 386125200, 401850000, 417574800, 433299600,
       449024400, 465354000, 481078800, 496803600, 512528400, 528253200, 543978000, 559702800,
       575427600, 591152400, 606877200, 622602000, 638326800, 654656400, 670381200, 686106000,
       701830800, 717555600, 733280400, 749005200, 764730000, 780454800, 796179600, 811904400,
       828234000, 846378000, 859683600, 877827600, 891133200, 909277200, 922582800, 941331600,
       954032400, 972781200, 985482000, 1004230800, 1017536400, 1035680400, 1048986000,
       1067130000, 1080435600, 1099184400, 1111885200, 1130634000, 1143334800, 1162083600,
       1174784400, 1193533200, 1206838800, 1224982800, 1238288400, 1256432400, 1269738000,
       1288486800, 1301187600, 1319936400, 1332637200, 1351386000, 1364691600, 1382835600,
       1396141200, 1414285200, 1427590800, 1445734800, 1459040400, 1477789200, 1490490000,
       1509238800, 1521939600, 1540688400, 1553994000, 1572138000, 1585443600, 1603587600,
       1616893200, 1635642000, 1648342800, 1667091600, 1679792400, 1698541200, 1711846800,
       1729990800, 1743296400, 1761440400, 1774746000, 1792890000, 1806195600, 1824944400,
       1837645200, 1856394000, 1869094800, 1887843600, 1901149200, 1919293200, 1932598800,
       1950742800, 1964048400, 1982797200, 1995498000, 2014246800, 2026947600, 2045696400,
       2058397200, 2077146000, 2090451600, 2108595600, 2121901200, 2140045200, 2153350800,
       2172099600, 2184800400, 2203549200, 2216250000, 2234998800, 2248304400, 2266448400,
       2279754000, 2297898000, 2311203600, 2329347600, 2342653200, 2361402000, 2374102800,
       2392851600, 2405552400, 2424301200, 2437606800, 2455750800, 2469056400, 2487200400,
       2500506000, 2519254800, 2531955600, 2550704400, 2563405200, 2582154000, 2595459600,
       2613603600, 2626909200, 2645053200, 2658358800, 2676502800, 2689808400, 2708557200,
       2721258000, 2740006800, 2752707600, 2771456400, 2784762000, 2802906000, 2816211600,
       2834355600, 2847661200, 2866410000, 2879110800, 2897859600, 2910560400, 2929309200,
       2942010000, 2960758800, 2974064400, 2992208400, 3005514000, 3023658000, 3036963600,
       3055712400, 3068413200, 3087162000, 3099862800, 3118611600, 3131917200, 3150061200,
       3163366800, 3181510800, 3194816400, 3212960400, 3226266000, 3245014800, 3257715600,
       3276464400, 3289165200, 3307914000, 3321219600, 3339363600, 3352669200, 3370813200,
       3384118800, 3402867600, 3415568400, 3434317200, 3447018000, 3465766800, 3479072400,
       3497216400, 3510522000, 3528666000, 3541971600, 3560115600, 3573421200, 3592170000,
       3604870800, 3623619600, 3636320400, 3655069200, 3668374800, 3686518800, 3699824400,
       3717968400, 3731274000, 3750022800, 3762723600, 3781472400, 3794173200, 3812922000,
       3825622800, 3844371600, 3857677200, 3875821200, 3889126800, 3907270800, 3920576400,
       3939325200, 3952026000, 3970774800, 3983475600, 4002224400, 4015530000, 4033674000,
       4046979600, 4065123600, 4078429200, 4096573200]

/-- The zone `Asia/Kolkata`. -/
def kolkata : Zone where
  name := "Asia/Kolkata"
  initial := 21208
  changes :=
    [(-3645237208, 21200), (-3155694800, 19270)] ++
    turns 19800 23400
      [2019705670, 891581400, 872058600, 862637400, 764145000]
      []

/-- The zone `Asia/Kathmandu`. -/
def kathmandu : Zone where
  name := "Asia/Kathmandu"
  initial := 20476
  changes :=
    [(-1577943676, 19800), (504901800, 20700)]

/-- The zone `Australia/Lord_Howe`. -/
def lordHowe : Zone where
  name := "Australia/Lord_Howe"
  initial := 38180
  changes :=
    [(-2364114980, 36000)] ++
    turns 37800 41400
      []
      [352216800, 372785400, 384273000, 404839800, 415722600, 436289400, 447172200, 467739000,
       478621800] ++
    turns 39600 37800
      []
      [499188600, 511282800, 530033400, 542732400, 562087800, 574786800, 594142200, 606236400,
       625591800, 636476400, 657041400, 667926000, 688491000, 699375600, 719940600, 731430000,
       751995000, 762879600, 783444600, 794329200, 814894200, 828198000, 846343800, 859647600,
       877793400, 891097200, 909243000, 922546800, 941297400, 953996400, 967303800, 985446000,
       1004196600, 1017500400, 1035646200, 1048950000, 1067095800, 1080399600, 1099150200,
       1111849200, 1130599800, 1143903600, 1162049400, 1174748400, 1193499000, 1207407600,
       1223134200, 1238857200, 1254583800, 1270306800, 1286033400, 1301756400, 1317483000,
       1333206000, 1349537400, 1365260400, 1380987000, 1396710000, 1412436600, 1428159600,
       1443886200, 1459609200, 1475335800, 1491058800, 1506785400, 1522508400, 1538839800,
       1554562800, 1570289400, 1586012400, 1601739000, 1617462000, 1633188600, 1648911600,
       1664638200, 1680361200, 1696087800, 1712415600, 1728142200, 1743865200, 1759591800,
       1775314800, 1791041400, 1806764400, 1822491000, 1838214000, 1853940600, 1869663600,
       1885995000, 1901718000, 1917444600, 1933167600, 1948894200, 1964617200, 1980343800,
       1996066800, 2011793400, 2027516400, 2043243000, 2058966000, 2075297400, 2091020400,
       2106747000, 2122470000, 2138196600, 2153919600, 2169646200, 2185369200, 2201095800,
       2216818800, 2233150200, 2248873200, 2264599800, 2280322800, 2296049400, 2311772400,
       2327499000, 2343222000, 2358948600, 2374671600, 2390398200, 2406121200, 2422452600,
       2438175600, 2453902200, 2469625200, 2485351800, 2501074800, 2516801400, 2532524400,
       2548251000, 2563974000, 2579700600, 2596028400, 2611755000, 2627478000, 2643204600,
       2658927600, 2674654200, 2690377200, 2706103800, 2721826800, 2737553400, 2753276400,
       2769607800, 2785330800, 2801057400, 2816780400, 2832507000, 2848230000, 2863956600,
       2879679600, 2895406200, 2911129200, 2926855800, 2942578800, 2958910200, 2974633200,
       2990359800, 3006082800, 3021809400, 3037532400, 3053259000, 3068982000, 3084708600,
       3100431600, 3116763000, 3132486000, 3148212600, 3163935600, 3179662200, 3195385200,
       3211111800, 3226834800, 3242561400, 3258284400, 3274011000, 3289734000, 3306065400,
       3321788400, 3337515000, 3353238000, 3368964600, 3384687600, 3400414200, 3416137200,
       3431863800, 3447586800, 3463313400, 3479641200, 3495367800, 3511090800, 3526817400,
       3542540400, 3558267000, 3573990000, 3589716600, 3605439600, 3621166200, 3636889200,
       3653220600, 3668943600, 3684670200, 3700393200, 3716119800, 3731842800, 3747569400,
       3763292400, 3779019000, 3794742000, 3810468600, 3826191600, 3842523000, 3858246000,
       3873972600, 3889695600, 3905422200, 3921145200, 3936871800, 3952594800, 3968321400,
       3984044400, 4000375800, 4016098800, 4031825400, 4047548400, 4063275000, 4078998000,
       4094724600]

/-- The zone `Pacific/Apia`. -/
def apia : Zone where
  name := "Pacific/Apia"
  initial := 45184
  changes :=
    [(-2445424384, -41216), (-1861878784, -41400)] ++
    turns (-39600) (-36000)
      [631110600]
      [1285498800, 1301752800, 1316872800] ++
    turns 50400 46800
      []
      [1325239200, 1333202400, 1348927200, 1365256800, 1380376800, 1396706400, 1411826400,
       1428156000, 1443276000, 1459605600, 1474725600, 1491055200, 1506175200, 1522504800,
       1538229600, 1554559200, 1569679200, 1586008800, 1601128800, 1617458400]

/-- The zone `America/St_Johns`. -/
def stJohns : Zone where
  name := "America/St_Johns"
  initial := -12652
  changes :=
    turns (-9052) (-12652)
      [1664130548, 1650137348, 1632076148, 1615145348, 1598650148, 1590100148, 1567286948,
       1551565748, 1535837348, 1520116148, 1503782948, 1488666548, 1472333348, 1457216948,
       1440883748, 1425767348, 1409434148, 1394317748, 1377984548, 1362263348, 1346534948,
       1330813748, 1314480548, 1299364148, 1283030948, 1267914548, 1251581348, 1236464948,
       1220131748, 1205015348, 1188682148, 1172960948, 1156627748, 1141511348, 1125178148,
       1110061748]
      [] ++
    turns (-12600) (-9000)
      [1096921748, 1093728600, 1078612200, 1061670600, 1048973400, 1030221000, 1017523800,
       998771400, 986074200, 966717000, 954624600, 935267400, 922570200, 903817800, 891120600,
       872368200, 765401400, 746044200, 733347000, 714594600, 701897400, 683145000, 670447800,
       651695400, 638998200, 619641000, 606943800, 589401000, 576099000, 557951400, 544649400,
       526501800, 513199800, 495052200, 481750200, 463602600, 450300600, 431548200, 418246200,
       400098600, 386796600, 368649000, 355347000, 337199400, 323897400, 305749800, 289423800,
       273695400, 257974200, 242245800, 226524600, 210796200, 195075000, 179346600, 163625400,
       147897000, 131571000, 116447400, 100121400, 84393000, 68671800, 52943400, 37222200,
       21493800, 5772600]
      [9955800, 25677000, 41405400, 57731400, 73459800, 89181000, 104909400, 120630600,
       136359000, 152080200, 167808600, 183529800, 199258200, 215584200, 230707800, 247033800,
       262762200, 278483400, 294211800, 309933000, 325661400, 341382600, 357111000, 372832200,
       388560600, 404886600, 420010200, 436336200, 452064600, 467785800, 483514200, 499235400,
       514963800, 530685000, 544591860, 562127460] ++
    [(576041460, -5400)] ++
    turns (-12600) (-9000)
      []
      [594178260, 607491060, 625631460, 638940660, 657081060, 670995060, 688530660, 702444660,
       719980260, 733894260, 752034660, 765343860, 783484260, 796793460, 814933860, 828847860,
       846383460, 860297460, 877833060, 891747060, 909282660, 923196660, 941337060, 954646260,
       972786660, 986095860, 1004236260, 1018150260, 1035685860, 1049599860, 1067135460,
       1081049460, 1099189860, 1112499060, 1130639460, 1143948660, 1162089060, 1173583860,
       1194143460, 1205033460, 1225593060, 1236483060, 1257042660, 1268537460, 1289097060,
       1299987060, 1320553800, 1331443800, 1352003400, 1362893400, 1383453000, 1394343000,
       1414902600, 1425792600, 1446352200, 1457847000, 1478406600, 1489296600, 1509856200,
       1520746200, 1541305800, 1552195800, 1572755400, 1583645400, 1604205000, 1615699800,
       1636259400, 1647149400, 1667709000, 1678599000, 1699158600, 1710048600, 1730608200,
       1741498200, 1762057800, 1772947800, 1793507400, 1805002200, 1825561800, 1836451800,
       1857011400, 1867901400, 1888461000, 1899351000, 1919910600, 1930800600, 1951360200,
       1962855000, 1983414600, 1994304600, 2014864200, 2025754200, 2046313800, 2057203800,
       2077763400, 2088653400, 2109213000, 2120103000, 2140662600, 2152157400, 2172717000,
       2183607000, 2204166600, 2215056600, 2235616200, 2246506200, 2267065800, 2277955800,
       2298515400, 2309405400, 2329965000, 2341459800, 2362019400, 2372909400, 2393469000,
       2404359000, 2424918600, 2435808600, 2456368200, 2467258200, 2487817800, 2499312600,
       2519872200, 2530762200, 2551321800, 2562211800, 2582771400, 2593661400, 2614221000,
       2625111000, 2645670600, 2656560600, 2677120200, 2688615000, 2709174600, 2720064600,
       2740624200, 2751514200, 2772073800, 2782963800, 2803523400, 2814413400, 2834973000,
       2846467800, 2867027400, 2877917400, 2898477000, 2909367000, 2929926600, 2940816600,
       2961376200, 2972266200, 2992825800, 3003715800, 3024275400, 3035770200, 3056329800,
       3067219800, 3087779400, 3098669400, 3119229000, 3130119000, 3150678600, 3161568600,
       3182128200, 3193018200, 3213577800, 3225072600, 3245632200, 3256522200, 3277081800,
       3287971800, 3308531400, 3319421400, 3339981000, 3350871000, 3371430600, 3382925400,
       3403485000, 3414375000, 3434934600, 3445824600, 3466384200, 3477274200, 3497833800,
       3508723800, 3529283400, 3540173400, 3560733000, 3572227800, 3592787400, 3603677400,
       3624237000, 3635127000, 3655686600, 3666576600, 3687136200, 3698026200, 3718585800,
       3730080600, 3750640200, 3761530200, 3782089800, 3792979800, 3813539400, 3824429400,
       3844989000, 3855879000, 3876438600, 3887328600, 3907888200, 3919383000, 3939942600,
       3950832600, 3971392200, 3982282200, 4002841800, 4013731800, 4034291400, 4045181400,
       4065741000, 4076631000, 4097190600]

/-- The zone `Africa/Monrovia`. -/
def monrovia : Zone where
  name := "Africa/Monrovia"
  initial := -2588
  changes :=
    [(-1604359012, -2670), (63593070, 0)]

/-- The zone `Pacific/Kiritimati`. -/
def kiritimati : Zone where
  name := "Pacific/Kiritimati"
  initial := -37760
  changes :=
    [(-2177415040, -38400), (307622400, -36000), (788868000, 50400)]

/-- The zone `Europe/Dublin`. -/
def dublin : Zone where
  name := "Europe/Dublin"
  initial := -1521
  changes :=
    [(-1691962479, 2079)] ++
    turns 3600 0
      [1680474879, 1680472800, 1664143200, 1650146400, 1633903200, 1617487200, 1601848800,
       1586037600, 1570399200, 1552168800, 1538344800, 1522533600, 1507500000, 1490565600,
       1473631200, 1460930400, 1442786400, 1428876000, 1410732000, 1396216800, 1379282400,
       1364767200, 1348437600, 1333317600, 1315778400, 1301263200, 1284328800, 1269813600,
       1253484000, 1238364000, 1221429600, 1206914400, 1189980000, 1175464800, 1159135200,
       1143410400, 1126476000, 1111960800, 1095631200, 1080511200, 1063576800, 1049061600,
       1032127200, 1017612000, 1001282400, 986162400, 969228000, 950479200, 942012000, 733359600,
       719445600, 699490800, 684972000, 668037600, 654732000, 636588000, 622072800, 605743200,
       590623200, 574293600, 558568800, 542239200, 527119200, 512604000, 496274400, 481154400,
       464220000, 449704800, 432165600, 417650400, 401320800, 386200800, 369266400, 354751200,
       337816800, 323301600, 306972000, 291852000, 276732000, 257983200, 245282400, 226533600,
       213228000, 195084000, 182383200, 163634400, 150933600, 132184800, 119484000, 100735200,
       88034400, 68680800, 59004000]
      [57722400, 69818400, 89172000, 101268000, 120621600, 132717600, 152071200, 164167200,
       183520800, 196221600, 214970400, 227671200, 246420000, 259120800, 278474400, 290570400,
       309924000, 322020000, 341373600, 354675600, 372819600, 386125200, 404269200, 417574800,
       435718800, 449024400, 467773200, 481078800, 499222800, 512528400, 530672400, 543978000,
       562122000, 575427600, 593571600, 606877200, 625626000, 638326800, 657075600, 670381200,
       688525200, 701830800, 719974800, 733280400, 751424400, 764730000, 782874000, 796179600,
       814323600, 828234000, 846378000, 859683600, 877827600, 891133200, 909277200, 922582800,
       941331600, 954032400, 972781200, 985482000, 1004230800, 1017536400, 1035680400,
       1048986000, 1067130000, 1080435600, 1099184400, 1111885200, 1130634000, 1143334800,
       1162083600, 1174784400, 1193533200, 1206838800, 1224982800, 1238288400, 1256432400,
       1269738000, 1288486800, 1301187600, 1319936400, 1332637200, 1351386000, 1364691600,
       1382835600, 1396141200, 1414285200, 1427590800, 1445734800, 1459040400, 1477789200,
       1490490000, 1509238800, 1521939600, 1540688400, 1553994000, 1572138000, 1585443600,
       1603587600, 1616893200, 1635642000, 1648342800, 1667091600, 1679792400, 1698541200,
       1711846800, 1729990800, 1743296400, 1761440400, 1774746000, 1792890000, 1806195600,
       1824944400, 1837645200, 1856394000, 1869094800, 1887843600, 1901149200, 1919293200,
       1932598800, 1950742800, 1964048400, 1982797200, 1995498000, 2014246800, 2026947600,
       2045696400, 2058397200, 2077146000, 2090451600, 2108595600, 2121901200, 2140045200,
       2153350800, 2172099600, 2184800400, 2203549200, 2216250000, 2234998800, 2248304400,
       2266448400, 2279754000, 2297898000, 2311203600, 2329347600, 2342653200, 2361402000,
       2374102800, 2392851600, 2405552400, 2424301200, 2437606800, 2455750800, 2469056400,
       2487200400, 2500506000, 2519254800, 2531955600, 2550704400, 2563405200, 2582154000,
       2595459600, 2613603600, 2626909200, 2645053200, 2658358800, 2676502800, 2689808400,
       2708557200, 2721258000, 2740006800, 2752707600, 2771456400, 2784762000, 2802906000,
       2816211600, 2834355600, 2847661200, 2866410000, 2879110800, 2897859600, 2910560400,
       2929309200, 2942010000, 2960758800, 2974064400, 2992208400, 3005514000, 3023658000,
       3036963600, 3055712400, 3068413200, 3087162000, 3099862800, 3118611600, 3131917200,
       3150061200, 3163366800, 3181510800, 3194816400, 3212960400, 3226266000, 3245014800,
       3257715600, 3276464400, 3289165200, 3307914000, 3321219600, 3339363600, 3352669200,
       3370813200, 3384118800, 3402867600, 3415568400, 3434317200, 3447018000, 3465766800,
       3479072400, 3497216400, 3510522000, 3528666000, 3541971600, 3560115600, 3573421200,
       3592170000, 3604870800, 3623619600, 3636320400, 3655069200, 3668374800, 3686518800,
       3699824400, 3717968400, 3731274000, 3750022800, 3762723600, 3781472400, 3794173200,
       3812922000, 3825622800, 3844371600, 3857677200, 3875821200, 3889126800, 3907270800,
       3920576400, 3939325200, 3952026000, 3970774800, 3983475600, 4002224400, 4015530000,
       4033674000, 4046979600, 4065123600, 4078429200, 4096573200]

/-- The zone `America/Sao_Paulo`. -/
def saoPaulo : Zone where
  name := "America/Sao_Paulo"
  initial := -11188
  changes :=
    turns (-10800) (-7200)
      [1767214412, 1206957600, 1191362400, 1175374800, 1159826400, 633819600, 622069200,
       602283600, 591832800, 570747600, 560210400, 539125200, 531352800, 195426000, 184197600,
       155163600, 150069600, 128898000, 121125600, 99954000, 89589600, 68418000, 57967200]
      [499748400, 511236000, 530593200, 540266400, 562129200, 571197600, 592974000, 602042400,
       624423600, 634701600, 656478000, 666756000, 687927600, 697600800, 719982000, 728445600,
       750826800, 761709600, 782276400, 793159200, 813726000, 824004000, 844570800, 856058400,
       876106800, 888717600, 908074800, 919562400, 938919600, 951616800, 970974000, 982461600,
       1003028400, 1013911200, 1036292400, 1045360800, 1066532400, 1076810400, 1099364400,
       1108864800, 1129431600, 1140314400, 1162695600, 1172368800, 1192330800, 1203213600,
       1224385200, 1234663200, 1255834800, 1266717600, 1287284400, 1298167200, 1318734000,
       1330221600, 1350788400, 1361066400, 1382238000, 1392516000, 1413687600, 1424570400,
       1445137200, 1456020000, 1476586800, 1487469600, 1508036400, 1518919200, 1541300400,
       1550368800]

/-- The zones whose changes are tabulated. -/
def tabulated : List Zone :=
  [shanghai, newYork, berlin, kolkata, kathmandu, lordHowe, apia, stJohns, monrovia, kiritimati,
   dublin, saoPaulo]

end Recordwise.Zone
