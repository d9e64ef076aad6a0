import AnomalyWindows.Calendar.Zone

namespace AnomalyWindows.Calendar.ZoneTable

def losAngeles : Zone where
  name := "America/Los_Angeles"
  initial := -28378
  history := Zone.chain (-28378) [
    ⟨-2717640000, -28800⟩, ⟨-1633269600, -25200⟩, ⟨-1615129200, -28800⟩, ⟨-1601820000, -25200⟩,
    ⟨-1583679600, -28800⟩, ⟨-880207200, -25200⟩, ⟨-765385200, -28800⟩, ⟨-687967140, -25200⟩,
    ⟨-662655600, -28800⟩, ⟨-620838000, -25200⟩, ⟨-608137200, -28800⟩, ⟨-589388400, -25200⟩,
    ⟨-576082800, -28800⟩, ⟨-557938800, -25200⟩, ⟨-544633200, -28800⟩, ⟨-526489200, -25200⟩,
    ⟨-513183600, -28800⟩, ⟨-495039600, -25200⟩, ⟨-481734000, -28800⟩, ⟨-463590000, -25200⟩,
    ⟨-450284400, -28800⟩, ⟨-431535600, -25200⟩, ⟨-418230000, -28800⟩, ⟨-400086000, -25200⟩,
    ⟨-386780400, -28800⟩, ⟨-368636400, -25200⟩, ⟨-355330800, -28800⟩, ⟨-337186800, -25200⟩,
    ⟨-323881200, -28800⟩, ⟨-305737200, -25200⟩, ⟨-292431600, -28800⟩, ⟨-273682800, -25200⟩,
    ⟨-260982000, -28800⟩, ⟨-242233200, -25200⟩, ⟨-226508400, -28800⟩, ⟨-210783600, -25200⟩,
    ⟨-195058800, -28800⟩, ⟨-179334000, -25200⟩, ⟨-163609200, -28800⟩, ⟨-147884400, -25200⟩,
    ⟨-131554800, -28800⟩, ⟨-116434800, -25200⟩, ⟨-100105200, -28800⟩, ⟨-84376800, -25200⟩,
    ⟨-68655600, -28800⟩, ⟨-52927200, -25200⟩, ⟨-37206000, -28800⟩, ⟨-21477600, -25200⟩,
    ⟨-5756400, -28800⟩, ⟨9972000, -25200⟩, ⟨25693200, -28800⟩, ⟨41421600, -25200⟩,
    ⟨57747600, -28800⟩, ⟨73476000, -25200⟩, ⟨89197200, -28800⟩, ⟨104925600, -25200⟩,
    ⟨120646800, -28800⟩, ⟨126698400, -25200⟩, ⟨152096400, -28800⟩, ⟨162381600, -25200⟩,
    ⟨183546000, -28800⟩, ⟨199274400, -25200⟩, ⟨215600400, -28800⟩, ⟨230724000, -25200⟩,
    ⟨247050000, -28800⟩, ⟨262778400, -25200⟩, ⟨278499600, -28800⟩, ⟨294228000, -25200⟩,
    ⟨309949200, -28800⟩, ⟨325677600, -25200⟩, ⟨341398800, -28800⟩, ⟨357127200, -25200⟩,
    ⟨372848400, -28800⟩, ⟨388576800, -25200⟩, ⟨404902800, -28800⟩, ⟨420026400, -25200⟩,
    ⟨436352400, -28800⟩, ⟨452080800, -25200⟩, ⟨467802000, -28800⟩, ⟨483530400, -25200⟩,
    ⟨499251600, -28800⟩, ⟨514980000, -25200⟩, ⟨530701200, -28800⟩, ⟨544615200, -25200⟩,
    ⟨562150800, -28800⟩, ⟨576064800, -25200⟩, ⟨594205200, -28800⟩, ⟨607514400, -25200⟩,
    ⟨625654800, -28800⟩, ⟨638964000, -25200⟩, ⟨657104400, -28800⟩, ⟨671018400, -25200⟩,
    ⟨688554000, -28800⟩, ⟨702468000, -25200⟩, ⟨720003600, -28800⟩, ⟨733917600, -25200⟩,
    ⟨752058000, -28800⟩, ⟨765367200, -25200⟩, ⟨783507600, -28800⟩, ⟨796816800, -25200⟩,
    ⟨814957200, -28800⟩, ⟨828871200, -25200⟩, ⟨846406800, -28800⟩, ⟨860320800, -25200⟩,
    ⟨877856400, -28800⟩, ⟨891770400, -25200⟩, ⟨909306000, -28800⟩, ⟨923220000, -25200⟩,
    ⟨941360400, -28800⟩, ⟨954669600, -25200⟩, ⟨972810000, -28800⟩, ⟨986119200, -25200⟩,
    ⟨1004259600, -28800⟩, ⟨1018173600, -25200⟩, ⟨1035709200, -28800⟩, ⟨1049623200, -25200⟩,
    ⟨1067158800, -28800⟩, ⟨1081072800, -25200⟩, ⟨1099213200, -28800⟩, ⟨1112522400, -25200⟩,
    ⟨1130662800, -28800⟩, ⟨1143972000, -25200⟩, ⟨1162112400, -28800⟩, ⟨1173607200, -25200⟩]
  tail := .yearly ⟨-28800, -25200, ⟨3, 2, 0, 7200⟩, ⟨11, 1, 0, 7200⟩⟩

def newYork : Zone where
  name := "America/New_York"
  initial := -17762
  history := Zone.chain (-17762) [
    ⟨-2717650800, -18000⟩, ⟨-1633280400, -14400⟩, ⟨-1615140000, -18000⟩, ⟨-1601830800, -14400⟩,
    ⟨-1583690400, -18000⟩, ⟨-1570381200, -14400⟩, ⟨-1551636000, -18000⟩, ⟨-1536512400, -14400⟩,
    ⟨-1523210400, -18000⟩, ⟨-1504458000, -14400⟩, ⟨-1491760800, -18000⟩, ⟨-1473008400, -14400⟩,
    ⟨-1459706400, -18000⟩, ⟨-1441558800, -14400⟩, ⟨-1428256800, -18000⟩, ⟨-1410109200, -14400⟩,
    ⟨-1396807200, -18000⟩, ⟨-1378659600, -14400⟩, ⟨-1365357600, -18000⟩, ⟨-1347210000, -14400⟩,
    ⟨-1333908000, -18000⟩, ⟨-1315155600, -14400⟩, ⟨-1301853600, -18000⟩, ⟨-1283706000, -14400⟩,
    ⟨-1270404000, -18000⟩, ⟨-1252256400, -14400⟩, ⟨-1238954400, -18000⟩, ⟨-1220806800, -14400⟩,
    ⟨-1207504800, -18000⟩, ⟨-1189357200, -14400⟩, ⟨-1176055200, -18000⟩, ⟨-1157302800, -14400⟩,
    ⟨-1144605600, -18000⟩, ⟨-1125853200, -14400⟩, ⟨-1112551200, -18000⟩, ⟨-1094403600, -14400⟩,
    ⟨-1081101600, -18000⟩, ⟨-1062954000, -14400⟩, ⟨-1049652000, -18000⟩, ⟨-1031504400, -14400⟩,
    ⟨-1018202400, -18000⟩, ⟨-1000054800, -14400⟩, ⟨-986752800, -18000⟩, ⟨-968000400, -14400⟩,
    ⟨-955303200, -18000⟩, ⟨-936550800, -14400⟩, ⟨-923248800, -18000⟩, ⟨-905101200, -14400⟩,
    ⟨-891799200, -18000⟩, ⟨-880218000, -14400⟩, ⟨-765396000, -18000⟩, ⟨-747248400, -14400⟩,
    ⟨-733946400, -18000⟩, ⟨-715798800, -14400⟩, ⟨-702496800, -18000⟩, ⟨-684349200, -14400⟩,
    ⟨-671047200, -18000⟩, ⟨-652899600, -14400⟩, ⟨-639597600, -18000⟩, ⟨-620845200, -14400⟩,
    ⟨-608148000, -18000⟩, ⟨-589395600, -14400⟩, ⟨-576093600, -18000⟩, ⟨-557946000, -14400⟩,
    ⟨-544644000, -18000⟩, ⟨-526496400, -14400⟩, ⟨-513194400, -18000⟩, ⟨-495046800, -14400⟩,
    ⟨-481744800, -18000⟩, ⟨-463597200, -14400⟩, ⟨-447271200, -18000⟩, ⟨-431542800, -14400⟩,
    ⟨-415821600, -18000⟩, ⟨-400093200, -14400⟩, ⟨-384372000, -18000⟩, ⟨-368643600, -14400⟩,
    ⟨-352922400, -18000⟩, ⟨-337194000, -14400⟩, ⟨-321472800, -18000⟩, ⟨-305744400, -14400⟩,
    ⟨-289418400, -18000⟩, ⟨-273690000, -14400⟩, ⟨-257968800, -18000⟩, ⟨-242240400, -14400⟩,
    ⟨-226519200, -18000⟩, ⟨-210790800, -14400⟩, ⟨-195069600, -18000⟩, ⟨-179341200, -14400⟩,
    ⟨-163620000, -18000⟩, ⟨-147891600, -14400⟩, ⟨-131565600, -18000⟩, ⟨-116442000, -14400⟩,
    ⟨-100116000, -18000⟩, ⟨-84387600, -14400⟩, ⟨-68666400, -18000⟩, ⟨-52938000, -14400⟩,
    ⟨-37216800, -18000⟩, ⟨-21488400, -14400⟩, ⟨-5767200, -18000⟩, ⟨9961200, -14400⟩,
    ⟨25682400, -18000⟩, ⟨41410800, -14400⟩, ⟨57736800, -18000⟩, ⟨73465200, -14400⟩,
    ⟨89186400, -18000⟩, ⟨104914800, -14400⟩, ⟨120636000, -18000⟩, ⟨126687600, -14400⟩,
    ⟨152085600, -18000⟩, ⟨162370800, -14400⟩, ⟨183535200, -18000⟩, ⟨199263600, -14400⟩,
    ⟨215589600, -18000⟩, ⟨230713200, -14400⟩, ⟨247039200, -18000⟩, ⟨262767600, -14400⟩,
    ⟨278488800, -18000⟩, ⟨294217200, -14400⟩, ⟨309938400, -18000⟩, ⟨325666800, -14400⟩,
    ⟨341388000, -18000⟩, ⟨357116400, -14400⟩, ⟨372837600, -18000⟩, ⟨388566000, -14400⟩,
    ⟨404892000, -18000⟩, ⟨420015600, -14400⟩, ⟨436341600, -18000⟩, ⟨452070000, -14400⟩,
    ⟨467791200, -18000⟩, ⟨483519600, -14400⟩, ⟨499240800, -18000⟩, ⟨514969200, -14400⟩,
    ⟨530690400, -18000⟩, ⟨544604400, -14400⟩, ⟨562140000, -18000⟩, ⟨576054000, -14400⟩,
    ⟨594194400, -18000⟩, ⟨607503600, -14400⟩, ⟨625644000, -18000⟩, ⟨638953200, -14400⟩,
    ⟨657093600, -18000⟩, ⟨671007600, -14400⟩, ⟨688543200, -18000⟩, ⟨702457200, -14400⟩,
    ⟨719992800, -18000⟩, ⟨733906800, -14400⟩, ⟨752047200, -18000⟩, ⟨765356400, -14400⟩,
    ⟨783496800, -18000⟩, ⟨796806000, -14400⟩, ⟨814946400, -18000⟩, ⟨828860400, -14400⟩,
    ⟨846396000, -18000⟩, ⟨860310000, -14400⟩, ⟨877845600, -18000⟩, ⟨891759600, -14400⟩,
    ⟨909295200, -18000⟩, ⟨923209200, -14400⟩, ⟨941349600, -18000⟩, ⟨954658800, -14400⟩,
    ⟨972799200, -18000⟩, ⟨986108400, -14400⟩, ⟨1004248800, -18000⟩, ⟨1018162800, -14400⟩,
    ⟨1035698400, -18000⟩, ⟨1049612400, -14400⟩, ⟨1067148000, -18000⟩, ⟨1081062000, -14400⟩,
    ⟨1099202400, -18000⟩, ⟨1112511600, -14400⟩, ⟨1130652000, -18000⟩, ⟨1143961200, -14400⟩,
    ⟨1162101600, -18000⟩, ⟨1173596400, -14400⟩]
  tail := .yearly ⟨-18000, -14400, ⟨3, 2, 0, 7200⟩, ⟨11, 1, 0, 7200⟩⟩

def havana : Zone where
  name := "America/Havana"
  initial := -19768
  history := Zone.chain (-19768) [
    ⟨-2524501832, -19776⟩, ⟨-1402813824, -18000⟩, ⟨-1311534000, -14400⟩, ⟨-1300996800, -18000⟩,
    ⟨-933534000, -14400⟩, ⟨-925675200, -18000⟩, ⟨-902084400, -14400⟩, ⟨-893620800, -18000⟩,
    ⟨-870030000, -14400⟩, ⟨-862171200, -18000⟩, ⟨-775681200, -14400⟩, ⟨-767822400, -18000⟩,
    ⟨-744231600, -14400⟩, ⟨-736372800, -18000⟩, ⟨-144702000, -14400⟩, ⟨-134251200, -18000⟩,
    ⟨-113425200, -14400⟩, ⟨-102542400, -18000⟩, ⟨-86295600, -14400⟩, ⟨-72907200, -18000⟩,
    ⟨-54154800, -14400⟩, ⟨-41457600, -18000⟩, ⟨-21495600, -14400⟩, ⟨-5774400, -18000⟩,
    ⟨9954000, -14400⟩, ⟨25675200, -18000⟩, ⟨41403600, -14400⟩, ⟨57729600, -18000⟩,
    ⟨73458000, -14400⟩, ⟨87364800, -18000⟩, ⟨104907600, -14400⟩, ⟨118900800, -18000⟩,
    ⟨136357200, -14400⟩, ⟨150436800, -18000⟩, ⟨167806800, -14400⟩, ⟨183528000, -18000⟩,
    ⟨199256400, -14400⟩, ⟨215582400, -18000⟩, ⟨230706000, -14400⟩, ⟨247032000, -18000⟩,
    ⟨263365200, -14400⟩, ⟨276667200, -18000⟩, ⟨290581200, -14400⟩, ⟨308721600, -18000⟩,
    ⟨322030800, -14400⟩, ⟨340171200, -18000⟩, ⟨358318800, -14400⟩, ⟨371620800, -18000⟩,
    ⟨389768400, -14400⟩, ⟨403070400, -18000⟩, ⟨421218000, -14400⟩, ⟨434520000, -18000⟩,
    ⟨452667600, -14400⟩, ⟨466574400, -18000⟩, ⟨484117200, -14400⟩, ⟨498024000, -18000⟩,
    ⟨511333200, -14400⟩, ⟨529473600, -18000⟩, ⟨542782800, -14400⟩, ⟨560923200, -18000⟩,
    ⟨574837200, -14400⟩, ⟨592372800, -18000⟩, ⟨606286800, -14400⟩, ⟨623822400, -18000⟩,
    ⟨638946000, -14400⟩, ⟨655876800, -18000⟩, ⟨671000400, -14400⟩, ⟨687330000, -18000⟩,
    ⟨702450000, -14400⟩, ⟨718779600, -18000⟩, ⟨733899600, -14400⟩, ⟨750229200, -18000⟩,
    ⟨765349200, -14400⟩, ⟨781678800, -18000⟩, ⟨796798800, -14400⟩, ⟨813128400, -18000⟩,
    ⟨828853200, -14400⟩, ⟨844578000, -18000⟩, ⟨860302800, -14400⟩, ⟨876632400, -18000⟩,
    ⟨891147600, -14400⟩, ⟨909291600, -18000⟩, ⟨922597200, -14400⟩, ⟨941346000, -18000⟩,
    ⟨954651600, -14400⟩, ⟨972795600, -18000⟩, ⟨986101200, -14400⟩, ⟨1004245200, -18000⟩,
    ⟨1018155600, -14400⟩, ⟨1035694800, -18000⟩, ⟨1049605200, -14400⟩, ⟨1067144400, -18000⟩,
    ⟨1080450000, -14400⟩, ⟨1162098000, -18000⟩, ⟨1173589200, -14400⟩, ⟨1193547600, -18000⟩,
    ⟨1205643600, -14400⟩, ⟨1224997200, -18000⟩, ⟨1236488400, -14400⟩, ⟨1256446800, -18000⟩,
    ⟨1268542800, -14400⟩, ⟨1288501200, -18000⟩, ⟨1300597200, -14400⟩, ⟨1321160400, -18000⟩,
    ⟨1333256400, -14400⟩, ⟨1352005200, -18000⟩, ⟨1362891600, -14400⟩, ⟨1383454800, -18000⟩,
    ⟨1394341200, -14400⟩, ⟨1414904400, -18000⟩, ⟨1425790800, -14400⟩, ⟨1446354000, -18000⟩,
    ⟨1457845200, -14400⟩, ⟨1478408400, -18000⟩, ⟨1489294800, -14400⟩, ⟨1509858000, -18000⟩,
    ⟨1520744400, -14400⟩, ⟨1541307600, -18000⟩, ⟨1552194000, -14400⟩, ⟨1572757200, -18000⟩,
    ⟨1583643600, -14400⟩, ⟨1604206800, -18000⟩, ⟨1615698000, -14400⟩, ⟨1636261200, -18000⟩,
    ⟨1647147600, -14400⟩, ⟨1667710800, -18000⟩, ⟨1678597200, -14400⟩, ⟨1699160400, -18000⟩,
    ⟨1710046800, -14400⟩, ⟨1730610000, -18000⟩, ⟨1741496400, -14400⟩, ⟨1762059600, -18000⟩,
    ⟨1772946000, -14400⟩, ⟨1825563600, -18000⟩]
  tail := .yearly ⟨-18000, -14400, ⟨3, 2, 0, 0⟩, ⟨11, 1, 0, 3600⟩⟩

def saoPaulo : Zone where
  name := "America/Sao_Paulo"
  initial := -11188
  history := Zone.chain (-11188) [
    ⟨-1767214412, -10800⟩, ⟨-1206957600, -7200⟩, ⟨-1191362400, -10800⟩, ⟨-1175374800, -7200⟩,
    ⟨-1159826400, -10800⟩, ⟨-633819600, -7200⟩, ⟨-622069200, -10800⟩, ⟨-602283600, -7200⟩,
    ⟨-591832800, -10800⟩, ⟨-570747600, -7200⟩, ⟨-560210400, -10800⟩, ⟨-539125200, -7200⟩,
    ⟨-531352800, -10800⟩, ⟨-195426000, -7200⟩, ⟨-184197600, -10800⟩, ⟨-155163600, -7200⟩,
    ⟨-149983200, -10800⟩, ⟨-128898000, -7200⟩, ⟨-121122000, -10800⟩, ⟨-99954000, -7200⟩,
    ⟨-89589600, -10800⟩, ⟨-68418000, -7200⟩, ⟨-57967200, -10800⟩, ⟨499748400, -7200⟩,
    ⟨511236000, -10800⟩, ⟨530593200, -7200⟩, ⟨540266400, -10800⟩, ⟨562129200, -7200⟩,
    ⟨571197600, -10800⟩, ⟨592974000, -7200⟩, ⟨602042400, -10800⟩, ⟨624423600, -7200⟩,
    ⟨634701600, -10800⟩, ⟨656478000, -7200⟩, ⟨666756000, -10800⟩, ⟨687927600, -7200⟩,
    ⟨697600800, -10800⟩, ⟨719982000, -7200⟩, ⟨728445600, -10800⟩, ⟨750826800, -7200⟩,
    ⟨761709600, -10800⟩, ⟨782276400, -7200⟩, ⟨793159200, -10800⟩, ⟨813726000, -7200⟩,
    ⟨824004000, -10800⟩, ⟨844570800, -7200⟩, ⟨856058400, -10800⟩, ⟨876106800, -7200⟩,
    ⟨888717600, -10800⟩, ⟨908074800, -7200⟩, ⟨919562400, -10800⟩, ⟨938919600, -7200⟩,
    ⟨951616800, -10800⟩, ⟨970974000, -7200⟩, ⟨982461600, -10800⟩, ⟨1003028400, -7200⟩,
    ⟨1013911200, -10800⟩, ⟨1036292400, -7200⟩, ⟨1045360800, -10800⟩, ⟨1066532400, -7200⟩,
    ⟨1076810400, -10800⟩, ⟨1099364400, -7200⟩, ⟨1108864800, -10800⟩, ⟨1129431600, -7200⟩,
    ⟨1140314400, -10800⟩, ⟨1162695600, -7200⟩, ⟨1172368800, -10800⟩, ⟨1192330800, -7200⟩,
    ⟨1203213600, -10800⟩, ⟨1224385200, -7200⟩, ⟨1234663200, -10800⟩, ⟨1255834800, -7200⟩,
    ⟨1266717600, -10800⟩, ⟨1287284400, -7200⟩, ⟨1298167200, -10800⟩, ⟨1318734000, -7200⟩,
    ⟨1330221600, -10800⟩, ⟨1350788400, -7200⟩, ⟨1361066400, -10800⟩, ⟨1382238000, -7200⟩,
    ⟨1392516000, -10800⟩, ⟨1413687600, -7200⟩, ⟨1424570400, -10800⟩, ⟨1445137200, -7200⟩,
    ⟨1456020000, -10800⟩, ⟨1476586800, -7200⟩, ⟨1487469600, -10800⟩, ⟨1508036400, -7200⟩,
    ⟨1518919200, -10800⟩, ⟨1541300400, -7200⟩, ⟨1550368800, -10800⟩]
  tail := .constant

def stJohns : Zone where
  name := "America/St_Johns"
  initial := -12652
  history := Zone.chain (-12652) [
    ⟨-1664130548, -9052⟩, ⟨-1650137348, -12652⟩, ⟨-1632076148, -9052⟩, ⟨-1615145348, -12652⟩,
    ⟨-1598650148, -9052⟩, ⟨-1590100148, -12652⟩, ⟨-1567286948, -9052⟩, ⟨-1551565748, -12652⟩,
    ⟨-1535837348, -9052⟩, ⟨-1520116148, -12652⟩, ⟨-1503782948, -9052⟩, ⟨-1488666548, -12652⟩,
    ⟨-1472333348, -9052⟩, ⟨-1457216948, -12652⟩, ⟨-1440883748, -9052⟩, ⟨-1425767348, -12652⟩,
    ⟨-1409434148, -9052⟩, ⟨-1394317748, -12652⟩, ⟨-1377984548, -9052⟩, ⟨-1362263348, -12652⟩,
    ⟨-1346534948, -9052⟩, ⟨-1330813748, -12652⟩, ⟨-1314480548, -9052⟩, ⟨-1299364148, -12652⟩,
    ⟨-1283030948, -9052⟩, ⟨-1267914548, -12652⟩, ⟨-1251581348, -9052⟩, ⟨-1236464948, -12652⟩,
    ⟨-1220131748, -9052⟩, ⟨-1205015348, -12652⟩, ⟨-1188682148, -9052⟩, ⟨-1172960948, -12652⟩,
    ⟨-1156627748, -9052⟩, ⟨-1141511348, -12652⟩, ⟨-1125178148, -9052⟩, ⟨-1110061748, -12652⟩,
    ⟨-1096921748, -12600⟩, ⟨-1093728600, -9000⟩, ⟨-1078612200, -12600⟩, ⟨-1061670600, -9000⟩,
    ⟨-1048973400, -12600⟩, ⟨-1030221000, -9000⟩, ⟨-1017523800, -12600⟩, ⟨-998771400, -9000⟩,
    ⟨-986074200, -12600⟩, ⟨-966717000, -9000⟩, ⟨-954624600, -12600⟩, ⟨-935267400, -9000⟩,
    ⟨-922570200, -12600⟩, ⟨-903817800, -9000⟩, ⟨-891120600, -12600⟩, ⟨-872368200, -9000⟩,
    ⟨-765401400, -12600⟩, ⟨-746044200, -9000⟩, ⟨-733347000, -12600⟩, ⟨-714594600, -9000⟩,
    ⟨-701897400, -12600⟩, ⟨-683145000, -9000⟩, ⟨-670447800, -12600⟩, ⟨-651695400, -9000⟩,
    ⟨-638998200, -12600⟩, ⟨-619641000, -9000⟩, ⟨-606943800, -12600⟩, ⟨-589401000, -9000⟩,
    ⟨-576099000, -12600⟩, ⟨-557951400, -9000⟩, ⟨-544649400, -12600⟩, ⟨-526501800, -9000⟩,
    ⟨-513199800, -12600⟩, ⟨-495052200, -9000⟩, ⟨-481750200, -12600⟩, ⟨-463602600, -9000⟩,
    ⟨-450300600, -12600⟩, ⟨-431548200, -9000⟩, ⟨-418246200, -12600⟩, ⟨-400098600, -9000⟩,
    ⟨-386796600, -12600⟩, ⟨-368649000, -9000⟩, ⟨-355347000, -12600⟩, ⟨-337199400, -9000⟩,
    ⟨-323897400, -12600⟩, ⟨-305749800, -9000⟩, ⟨-289423800, -12600⟩, ⟨-273695400, -9000⟩,
    ⟨-257974200, -12600⟩, ⟨-242245800, -9000⟩, ⟨-226524600, -12600⟩, ⟨-210796200, -9000⟩,
    ⟨-195075000, -12600⟩, ⟨-179346600, -9000⟩, ⟨-163625400, -12600⟩, ⟨-147897000, -9000⟩,
    ⟨-131571000, -12600⟩, ⟨-116447400, -9000⟩, ⟨-100121400, -12600⟩, ⟨-84393000, -9000⟩,
    ⟨-68671800, -12600⟩, ⟨-52943400, -9000⟩, ⟨-37222200, -12600⟩, ⟨-21493800, -9000⟩,
    ⟨-5772600, -12600⟩, ⟨9955800, -9000⟩, ⟨25677000, -12600⟩, ⟨41405400, -9000⟩, ⟨57731400, -12600⟩,
    ⟨73459800, -9000⟩, ⟨89181000, -12600⟩, ⟨104909400, -9000⟩, ⟨120630600, -12600⟩,
    ⟨136359000, -9000⟩, ⟨152080200, -12600⟩, ⟨167808600, -9000⟩, ⟨183529800, -12600⟩,
    ⟨199258200, -9000⟩, ⟨215584200, -12600⟩, ⟨230707800, -9000⟩, ⟨247033800, -12600⟩,
    ⟨262762200, -9000⟩, ⟨278483400, -12600⟩, ⟨294211800, -9000⟩, ⟨309933000, -12600⟩,
    ⟨325661400, -9000⟩, ⟨341382600, -12600⟩, ⟨357111000, -9000⟩, ⟨372832200, -12600⟩,
    ⟨388560600, -9000⟩, ⟨404886600, -12600⟩, ⟨420010200, -9000⟩, ⟨436336200, -12600⟩,
    ⟨452064600, -9000⟩, ⟨467785800, -12600⟩, ⟨483514200, -9000⟩, ⟨499235400, -12600⟩,
    ⟨514963800, -9000⟩, ⟨530685000, -12600⟩, ⟨544591860, -9000⟩, ⟨562127460, -12600⟩,
    ⟨576041460, -5400⟩, ⟨594178260, -12600⟩, ⟨607491060, -9000⟩, ⟨625631460, -12600⟩,
    ⟨638940660, -9000⟩, ⟨657081060, -12600⟩, ⟨670995060, -9000⟩, ⟨688530660, -12600⟩,
    ⟨702444660, -9000⟩, ⟨719980260, -12600⟩, ⟨733894260, -9000⟩, ⟨752034660, -12600⟩,
    ⟨765343860, -9000⟩, ⟨783484260, -12600⟩, ⟨796793460, -9000⟩, ⟨814933860, -12600⟩,
    ⟨828847860, -9000⟩, ⟨846383460, -12600⟩, ⟨860297460, -9000⟩, ⟨877833060, -12600⟩,
    ⟨891747060, -9000⟩, ⟨909282660, -12600⟩, ⟨923196660, -9000⟩, ⟨941337060, -12600⟩,
    ⟨954646260, -9000⟩, ⟨972786660, -12600⟩, ⟨986095860, -9000⟩, ⟨1004236260, -12600⟩,
    ⟨1018150260, -9000⟩, ⟨1035685860, -12600⟩, ⟨1049599860, -9000⟩, ⟨1067135460, -12600⟩,
    ⟨1081049460, -9000⟩, ⟨1099189860, -12600⟩, ⟨1112499060, -9000⟩, ⟨1130639460, -12600⟩,
    ⟨1143948660, -9000⟩, ⟨1162089060, -12600⟩, ⟨1173583860, -9000⟩, ⟨1194143460, -12600⟩,
    ⟨1205033460, -9000⟩, ⟨1225593060, -12600⟩, ⟨1236483060, -9000⟩, ⟨1257042660, -12600⟩,
    ⟨1268537460, -9000⟩, ⟨1289097060, -12600⟩, ⟨1299987060, -9000⟩, ⟨1320114600, -9000⟩]
  tail := .yearly ⟨-12600, -9000, ⟨3, 2, 0, 7200⟩, ⟨11, 1, 0, 7200⟩⟩

def berlin : Zone where
  name := "Europe/Berlin"
  initial := 3208
  history := Zone.chain 3208 [
    ⟨-2422054408, 3600⟩, ⟨-1693706400, 7200⟩, ⟨-1680483600, 3600⟩, ⟨-1663455600, 7200⟩,
    ⟨-1650150000, 3600⟩, ⟨-1632006000, 7200⟩, ⟨-1618700400, 3600⟩, ⟨-938905200, 7200⟩,
    ⟨-857257200, 3600⟩, ⟨-844556400, 7200⟩, ⟨-828226800, 3600⟩, ⟨-812502000, 7200⟩,
    ⟨-796777200, 3600⟩, ⟨-781052400, 7200⟩, ⟨-776563200, 10800⟩, ⟨-765936000, 7200⟩,
    ⟨-761180400, 3600⟩, ⟨-748479600, 7200⟩, ⟨-733273200, 3600⟩, ⟨-717631200, 7200⟩,
    ⟨-714610800, 10800⟩, ⟨-710380800, 7200⟩, ⟨-701910000, 3600⟩, ⟨-684975600, 7200⟩,
    ⟨-670460400, 3600⟩, ⟨-654130800, 7200⟩, ⟨-639010800, 3600⟩, ⟨323830800, 7200⟩,
    ⟨338950800, 3600⟩, ⟨354675600, 7200⟩, ⟨370400400, 3600⟩, ⟨386125200, 7200⟩, ⟨401850000, 3600⟩,
    ⟨417574800, 7200⟩, ⟨433299600, 3600⟩, ⟨449024400, 7200⟩, ⟨465354000, 3600⟩, ⟨481078800, 7200⟩,
    ⟨496803600, 3600⟩, ⟨512528400, 7200⟩, ⟨528253200, 3600⟩, ⟨543978000, 7200⟩, ⟨559702800, 3600⟩,
    ⟨575427600, 7200⟩, ⟨591152400, 3600⟩, ⟨606877200, 7200⟩, ⟨622602000, 3600⟩, ⟨638326800, 7200⟩,
    ⟨654656400, 3600⟩, ⟨670381200, 7200⟩, ⟨686106000, 3600⟩, ⟨701830800, 7200⟩, ⟨717555600, 3600⟩,
    ⟨733280400, 7200⟩, ⟨749005200, 3600⟩, ⟨764730000, 7200⟩, ⟨780454800, 3600⟩, ⟨796179600, 7200⟩,
    ⟨811904400, 3600⟩, ⟨828234000, 7200⟩]
  tail := .yearly ⟨3600, 7200, ⟨3, 5, 0, 7200⟩, ⟨10, 5, 0, 10800⟩⟩

def london : Zone where
  name := "Europe/London"
  initial := -75
  history := Zone.chain (-75) [
    ⟨-3852662325, 0⟩, ⟨-1691964000, 3600⟩, ⟨-1680472800, 0⟩, ⟨-1664143200, 3600⟩, ⟨-1650146400, 0⟩,
    ⟨-1633903200, 3600⟩, ⟨-1617487200, 0⟩, ⟨-1601848800, 3600⟩, ⟨-1586037600, 0⟩,
    ⟨-1570399200, 3600⟩, ⟨-1552168800, 0⟩, ⟨-1538344800, 3600⟩, ⟨-1522533600, 0⟩,
    ⟨-1507500000, 3600⟩, ⟨-1490565600, 0⟩, ⟨-1473631200, 3600⟩, ⟨-1460930400, 0⟩,
    ⟨-1442786400, 3600⟩, ⟨-1428876000, 0⟩, ⟨-1410732000, 3600⟩, ⟨-1396216800, 0⟩,
    ⟨-1379282400, 3600⟩, ⟨-1364767200, 0⟩, ⟨-1348437600, 3600⟩, ⟨-1333317600, 0⟩,
    ⟨-1315778400, 3600⟩, ⟨-1301263200, 0⟩, ⟨-1284328800, 3600⟩, ⟨-1269813600, 0⟩,
    ⟨-1253484000, 3600⟩, ⟨-1238364000, 0⟩, ⟨-1221429600, 3600⟩, ⟨-1206914400, 0⟩,
    ⟨-1189980000, 3600⟩, ⟨-1175464800, 0⟩, ⟨-1159135200, 3600⟩, ⟨-1143410400, 0⟩,
    ⟨-1126476000, 3600⟩, ⟨-1111960800, 0⟩, ⟨-1095631200, 3600⟩, ⟨-1080511200, 0⟩,
    ⟨-1063576800, 3600⟩, ⟨-1049061600, 0⟩, ⟨-1032127200, 3600⟩, ⟨-1017612000, 0⟩,
    ⟨-1001282400, 3600⟩, ⟨-986162400, 0⟩, ⟨-969228000, 3600⟩, ⟨-950479200, 0⟩, ⟨-942012000, 3600⟩,
    ⟨-904518000, 7200⟩, ⟨-896050800, 3600⟩, ⟨-875487600, 7200⟩, ⟨-864601200, 3600⟩,
    ⟨-844038000, 7200⟩, ⟨-832546800, 3600⟩, ⟨-812588400, 7200⟩, ⟨-798073200, 3600⟩,
    ⟨-781052400, 7200⟩, ⟨-772066800, 3600⟩, ⟨-764805600, 0⟩, ⟨-748476000, 3600⟩, ⟨-733356000, 0⟩,
    ⟨-719445600, 3600⟩, ⟨-717030000, 7200⟩, ⟨-706748400, 3600⟩, ⟨-699487200, 0⟩, ⟨-687996000, 3600⟩,
    ⟨-668037600, 0⟩, ⟨-654732000, 3600⟩, ⟨-636588000, 0⟩, ⟨-622072800, 3600⟩, ⟨-605743200, 0⟩,
    ⟨-590623200, 3600⟩, ⟨-574293600, 0⟩, ⟨-558568800, 3600⟩, ⟨-542239200, 0⟩, ⟨-527119200, 3600⟩,
    ⟨-512604000, 0⟩, ⟨-496274400, 3600⟩, ⟨-481154400, 0⟩, ⟨-464220000, 3600⟩, ⟨-449704800, 0⟩,
    ⟨-432165600, 3600⟩, ⟨-417650400, 0⟩, ⟨-401320800, 3600⟩, ⟨-386200800, 0⟩, ⟨-369266400, 3600⟩,
    ⟨-354751200, 0⟩, ⟨-337816800, 3600⟩, ⟨-323301600, 0⟩, ⟨-306972000, 3600⟩, ⟨-291852000, 0⟩,
    ⟨-276732000, 3600⟩, ⟨-257983200, 0⟩, ⟨-245282400, 3600⟩, ⟨-226533600, 0⟩, ⟨-213228000, 3600⟩,
    ⟨-195084000, 0⟩, ⟨-182383200, 3600⟩, ⟨-163634400, 0⟩, ⟨-150933600, 3600⟩, ⟨-132184800, 0⟩,
    ⟨-119484000, 3600⟩, ⟨-100735200, 0⟩, ⟨-88034400, 3600⟩, ⟨-68680800, 0⟩, ⟨-59004000, 3600⟩,
    ⟨57722400, 0⟩, ⟨69818400, 3600⟩, ⟨89172000, 0⟩, ⟨101268000, 3600⟩, ⟨120621600, 0⟩,
    ⟨132717600, 3600⟩, ⟨152071200, 0⟩, ⟨164167200, 3600⟩, ⟨183520800, 0⟩, ⟨196221600, 3600⟩,
    ⟨214970400, 0⟩, ⟨227671200, 3600⟩, ⟨246420000, 0⟩, ⟨259120800, 3600⟩, ⟨278474400, 0⟩,
    ⟨290570400, 3600⟩, ⟨309924000, 0⟩, ⟨322020000, 3600⟩, ⟨341373600, 0⟩, ⟨354675600, 3600⟩,
    ⟨372819600, 0⟩, ⟨386125200, 3600⟩, ⟨404269200, 0⟩, ⟨417574800, 3600⟩, ⟨435718800, 0⟩,
    ⟨449024400, 3600⟩, ⟨467773200, 0⟩, ⟨481078800, 3600⟩, ⟨499222800, 0⟩, ⟨512528400, 3600⟩,
    ⟨530672400, 0⟩, ⟨543978000, 3600⟩, ⟨562122000, 0⟩, ⟨575427600, 3600⟩, ⟨593571600, 0⟩,
    ⟨606877200, 3600⟩, ⟨625626000, 0⟩, ⟨638326800, 3600⟩, ⟨657075600, 0⟩, ⟨670381200, 3600⟩,
    ⟨688525200, 0⟩, ⟨701830800, 3600⟩, ⟨719974800, 0⟩, ⟨733280400, 3600⟩, ⟨751424400, 0⟩,
    ⟨764730000, 3600⟩, ⟨782874000, 0⟩, ⟨796179600, 3600⟩, ⟨814323600, 0⟩, ⟨820454400, 0⟩]
  tail := .yearly ⟨0, 3600, ⟨3, 5, 0, 3600⟩, ⟨10, 5, 0, 7200⟩⟩

def dublin : Zone where
  name := "Europe/Dublin"
  initial := -1521
  history := Zone.chain (-1521) [
    ⟨-1691962479, 2079⟩, ⟨-1680471279, 0⟩, ⟨-1664143200, 3600⟩, ⟨-1650146400, 0⟩,
    ⟨-1633903200, 3600⟩, ⟨-1617487200, 0⟩, ⟨-1601848800, 3600⟩, ⟨-1586037600, 0⟩,
    ⟨-1570399200, 3600⟩, ⟨-1552168800, 0⟩, ⟨-1538344800, 3600⟩, ⟨-1522533600, 0⟩,
    ⟨-1507500000, 3600⟩, ⟨-1490565600, 0⟩, ⟨-1473631200, 3600⟩, ⟨-1460930400, 0⟩,
    ⟨-1442786400, 3600⟩, ⟨-1428876000, 0⟩, ⟨-1410732000, 3600⟩, ⟨-1397426400, 0⟩,
    ⟨-1379282400, 3600⟩, ⟨-1364767200, 0⟩, ⟨-1348437600, 3600⟩, ⟨-1333317600, 0⟩,
    ⟨-1315778400, 3600⟩, ⟨-1301263200, 0⟩, ⟨-1284328800, 3600⟩, ⟨-1269813600, 0⟩,
    ⟨-1253484000, 3600⟩, ⟨-1238364000, 0⟩, ⟨-1221429600, 3600⟩, ⟨-1206914400, 0⟩,
    ⟨-1189980000, 3600⟩, ⟨-1175464800, 0⟩, ⟨-1159135200, 3600⟩, ⟨-1143410400, 0⟩,
    ⟨-1126476000, 3600⟩, ⟨-1111960800, 0⟩, ⟨-1095631200, 3600⟩, ⟨-1080511200, 0⟩,
    ⟨-1063576800, 3600⟩, ⟨-1049061600, 0⟩, ⟨-1032127200, 3600⟩, ⟨-1017612000, 0⟩,
    ⟨-1001282400, 3600⟩, ⟨-986162400, 0⟩, ⟨-969228000, 3600⟩, ⟨-950479200, 0⟩, ⟨-942012000, 3600⟩,
    ⟨-733356000, 0⟩, ⟨-719445600, 3600⟩, ⟨-699487200, 0⟩, ⟨-684972000, 3600⟩, ⟨-668037600, 0⟩,
    ⟨-654732000, 3600⟩, ⟨-636588000, 0⟩, ⟨-622072800, 3600⟩, ⟨-605743200, 0⟩, ⟨-590623200, 3600⟩,
    ⟨-574293600, 0⟩, ⟨-558568800, 3600⟩, ⟨-542239200, 0⟩, ⟨-527119200, 3600⟩, ⟨-512604000, 0⟩,
    ⟨-496274400, 3600⟩, ⟨-481154400, 0⟩, ⟨-464220000, 3600⟩, ⟨-449704800, 0⟩, ⟨-432165600, 3600⟩,
    ⟨-417650400, 0⟩, ⟨-401320800, 3600⟩, ⟨-386200800, 0⟩, ⟨-369266400, 3600⟩, ⟨-354751200, 0⟩,
    ⟨-337816800, 3600⟩, ⟨-323301600, 0⟩, ⟨-306972000, 3600⟩, ⟨-291852000, 0⟩, ⟨-276732000, 3600⟩,
    ⟨-257983200, 0⟩, ⟨-245282400, 3600⟩, ⟨-226533600, 0⟩, ⟨-213228000, 3600⟩, ⟨-195084000, 0⟩,
    ⟨-182383200, 3600⟩, ⟨-163634400, 0⟩, ⟨-150933600, 3600⟩, ⟨-132184800, 0⟩, ⟨-119484000, 3600⟩,
    ⟨-100735200, 0⟩, ⟨-88034400, 3600⟩, ⟨-68680800, 0⟩, ⟨-59004000, 3600⟩, ⟨57722400, 0⟩,
    ⟨69818400, 3600⟩, ⟨89172000, 0⟩, ⟨101268000, 3600⟩, ⟨120621600, 0⟩, ⟨132717600, 3600⟩,
    ⟨152071200, 0⟩, ⟨164167200, 3600⟩, ⟨183520800, 0⟩, ⟨196221600, 3600⟩, ⟨214970400, 0⟩,
    ⟨227671200, 3600⟩, ⟨246420000, 0⟩, ⟨259120800, 3600⟩, ⟨278474400, 0⟩, ⟨290570400, 3600⟩,
    ⟨309924000, 0⟩, ⟨322020000, 3600⟩, ⟨341373600, 0⟩, ⟨354675600, 3600⟩, ⟨372819600, 0⟩,
    ⟨386125200, 3600⟩, ⟨404269200, 0⟩, ⟨417574800, 3600⟩, ⟨435718800, 0⟩, ⟨449024400, 3600⟩,
    ⟨467773200, 0⟩, ⟨481078800, 3600⟩, ⟨499222800, 0⟩, ⟨512528400, 3600⟩, ⟨530672400, 0⟩,
    ⟨543978000, 3600⟩, ⟨562122000, 0⟩, ⟨575427600, 3600⟩, ⟨593571600, 0⟩, ⟨606877200, 3600⟩,
    ⟨625626000, 0⟩, ⟨638326800, 3600⟩, ⟨657075600, 0⟩, ⟨670381200, 3600⟩, ⟨688525200, 0⟩,
    ⟨701830800, 3600⟩, ⟨719974800, 0⟩, ⟨733280400, 3600⟩, ⟨751424400, 0⟩, ⟨764730000, 3600⟩,
    ⟨782874000, 0⟩, ⟨796179600, 3600⟩, ⟨814323600, 0⟩, ⟨828234000, 3600⟩]
  tail := .yearly ⟨3600, 0, ⟨10, 5, 0, 7200⟩, ⟨3, 5, 0, 3600⟩⟩

def beirut : Zone where
  name := "Asia/Beirut"
  initial := 8520
  history := Zone.chain 8520 [
    ⟨-2840149320, 7200⟩, ⟨-1570413600, 10800⟩, ⟨-1552186800, 7200⟩, ⟨-1538359200, 10800⟩,
    ⟨-1522551600, 7200⟩, ⟨-1507514400, 10800⟩, ⟨-1490583600, 7200⟩, ⟨-1473645600, 10800⟩,
    ⟨-1460948400, 7200⟩, ⟨-399866400, 10800⟩, ⟨-386650800, 7200⟩, ⟨-368330400, 10800⟩,
    ⟨-355114800, 7200⟩, ⟨-336794400, 10800⟩, ⟨-323578800, 7200⟩, ⟨-305172000, 10800⟩,
    ⟨-291956400, 7200⟩, ⟨-273636000, 10800⟩, ⟨-260420400, 7200⟩, ⟨78012000, 10800⟩,
    ⟨86734800, 7200⟩, ⟨105055200, 10800⟩, ⟨118270800, 7200⟩, ⟨136591200, 10800⟩, ⟨149806800, 7200⟩,
    ⟨168127200, 10800⟩, ⟨181342800, 7200⟩, ⟨199749600, 10800⟩, ⟨212965200, 7200⟩,
    ⟨231285600, 10800⟩, ⟨244501200, 7200⟩, ⟨262735200, 10800⟩, ⟨275950800, 7200⟩,
    ⟨452210400, 10800⟩, ⟨466722000, 7200⟩, ⟨483746400, 10800⟩, ⟨498258000, 7200⟩,
    ⟨515282400, 10800⟩, ⟨529794000, 7200⟩, ⟨546818400, 10800⟩, ⟨561330000, 7200⟩,
    ⟨581119200, 10800⟩, ⟨592952400, 7200⟩, ⟨610754400, 10800⟩, ⟨624488400, 7200⟩,
    ⟨641512800, 10800⟩, ⟨656024400, 7200⟩, ⟨673048800, 10800⟩, ⟨687560400, 7200⟩,
    ⟨704671200, 10800⟩, ⟨718146000, 7200⟩, ⟨733269600, 10800⟩, ⟨748990800, 7200⟩,
    ⟨764719200, 10800⟩, ⟨780440400, 7200⟩, ⟨796168800, 10800⟩, ⟨811890000, 7200⟩,
    ⟨828223200, 10800⟩, ⟨843944400, 7200⟩, ⟨859672800, 10800⟩, ⟨875394000, 7200⟩,
    ⟨891122400, 10800⟩, ⟨906843600, 7200⟩, ⟨922572000, 10800⟩]
  tail := .yearly ⟨7200, 10800, ⟨3, 5, 0, 0⟩, ⟨10, 5, 0, 0⟩⟩

def kolkata : Zone where
  name := "Asia/Kolkata"
  initial := 21208
  history := Zone.chain 21208 [
    ⟨-3645237208, 21200⟩, ⟨-3155694800, 19270⟩, ⟨-2019705670, 19800⟩, ⟨-891581400, 23400⟩,
    ⟨-872058600, 19800⟩, ⟨-862637400, 23400⟩, ⟨-764145000, 19800⟩]
  tail := .constant

def kathmandu : Zone where
  name := "Asia/Kathmandu"
  initial := 20476
  history := Zone.chain 20476 [
    ⟨-1577943676, 19800⟩, ⟨504901800, 20700⟩]
  tail := .constant

def lordHowe : Zone where
  name := "Australia/Lord_Howe"
  initial := 38180
  history := Zone.chain 38180 [
    ⟨-2364114980, 36000⟩, ⟨352216800, 37800⟩, ⟨372785400, 41400⟩, ⟨384273000, 37800⟩,
    ⟨404839800, 41400⟩, ⟨415722600, 37800⟩, ⟨436289400, 41400⟩, ⟨447172200, 37800⟩,
    ⟨467739000, 41400⟩, ⟨478621800, 37800⟩, ⟨499188600, 39600⟩, ⟨511282800, 37800⟩,
    ⟨530033400, 39600⟩, ⟨542732400, 37800⟩, ⟨562087800, 39600⟩, ⟨574786800, 37800⟩,
    ⟨594142200, 39600⟩, ⟨606236400, 37800⟩, ⟨625591800, 39600⟩, ⟨636476400, 37800⟩,
    ⟨657041400, 39600⟩, ⟨667926000, 37800⟩, ⟨688491000, 39600⟩, ⟨699375600, 37800⟩,
    ⟨719940600, 39600⟩, ⟨731430000, 37800⟩, ⟨751995000, 39600⟩, ⟨762879600, 37800⟩,
    ⟨783444600, 39600⟩, ⟨794329200, 37800⟩, ⟨814894200, 39600⟩, ⟨828198000, 37800⟩,
    ⟨846343800, 39600⟩, ⟨859647600, 37800⟩, ⟨877793400, 39600⟩, ⟨891097200, 37800⟩,
    ⟨909243000, 39600⟩, ⟨922546800, 37800⟩, ⟨941297400, 39600⟩, ⟨953996400, 37800⟩,
    ⟨967303800, 39600⟩, ⟨985446000, 37800⟩, ⟨1004196600, 39600⟩, ⟨1017500400, 37800⟩,
    ⟨1035646200, 39600⟩, ⟨1048950000, 37800⟩, ⟨1067095800, 39600⟩, ⟨1080399600, 37800⟩,
    ⟨1099150200, 39600⟩, ⟨1111849200, 37800⟩, ⟨1130599800, 39600⟩, ⟨1143903600, 37800⟩,
    ⟨1162049400, 39600⟩, ⟨1174748400, 37800⟩, ⟨1193499000, 39600⟩, ⟨1207407600, 37800⟩]
  tail := .yearly ⟨37800, 39600, ⟨10, 1, 0, 7200⟩, ⟨4, 1, 0, 7200⟩⟩

def chatham : Zone where
  name := "Pacific/Chatham"
  initial := 44028
  history := Zone.chain 44028 [
    ⟨-3192437628, 44100⟩, ⟨-757426500, 45900⟩, ⟨152632800, 49500⟩, ⟨162309600, 45900⟩,
    ⟨183477600, 49500⟩, ⟨194968800, 45900⟩, ⟨215532000, 49500⟩, ⟨226418400, 45900⟩,
    ⟨246981600, 49500⟩, ⟨257868000, 45900⟩, ⟨278431200, 49500⟩, ⟨289317600, 45900⟩,
    ⟨309880800, 49500⟩, ⟨320767200, 45900⟩, ⟨341330400, 49500⟩, ⟨352216800, 45900⟩,
    ⟨372780000, 49500⟩, ⟨384271200, 45900⟩, ⟨404834400, 49500⟩, ⟨415720800, 45900⟩,
    ⟨436284000, 49500⟩, ⟨447170400, 45900⟩, ⟨467733600, 49500⟩, ⟨478620000, 45900⟩,
    ⟨499183200, 49500⟩, ⟨510069600, 45900⟩, ⟨530632800, 49500⟩, ⟨541519200, 45900⟩,
    ⟨562082400, 49500⟩, ⟨573573600, 45900⟩, ⟨594136800, 49500⟩, ⟨605023200, 45900⟩,
    ⟨623772000, 49500⟩, ⟨637682400, 45900⟩, ⟨655221600, 49500⟩, ⟨669132000, 45900⟩,
    ⟨686671200, 49500⟩, ⟨700581600, 45900⟩, ⟨718120800, 49500⟩, ⟨732636000, 45900⟩,
    ⟨749570400, 49500⟩, ⟨764085600, 45900⟩, ⟨781020000, 49500⟩, ⟨795535200, 45900⟩,
    ⟨812469600, 49500⟩, ⟨826984800, 45900⟩, ⟨844524000, 49500⟩, ⟨858434400, 45900⟩,
    ⟨875973600, 49500⟩, ⟨889884000, 45900⟩, ⟨907423200, 49500⟩, ⟨921938400, 45900⟩,
    ⟨938872800, 49500⟩, ⟨953388000, 45900⟩, ⟨970322400, 49500⟩, ⟨984837600, 45900⟩,
    ⟨1002376800, 49500⟩, ⟨1016287200, 45900⟩, ⟨1033826400, 49500⟩, ⟨1047736800, 45900⟩,
    ⟨1065276000, 49500⟩, ⟨1079791200, 45900⟩, ⟨1096725600, 49500⟩, ⟨1111240800, 45900⟩,
    ⟨1128175200, 49500⟩, ⟨1142690400, 45900⟩, ⟨1159624800, 49500⟩, ⟨1174140000, 45900⟩,
    ⟨1191074400, 49500⟩]
  tail := .yearly ⟨45900, 49500, ⟨9, 5, 0, 9900⟩, ⟨4, 1, 0, 13500⟩⟩

def apia : Zone where
  name := "Pacific/Apia"
  initial := 45184
  history := Zone.chain 45184 [
    ⟨-2445424384, -41216⟩, ⟨-1861878784, -41400⟩, ⟨-631110600, -39600⟩, ⟨1285498800, -36000⟩,
    ⟨1301752800, -39600⟩, ⟨1316872800, -36000⟩, ⟨1325239200, 50400⟩, ⟨1333202400, 46800⟩,
    ⟨1348927200, 50400⟩, ⟨1365256800, 46800⟩, ⟨1380376800, 50400⟩, ⟨1396706400, 46800⟩,
    ⟨1411826400, 50400⟩, ⟨1428156000, 46800⟩, ⟨1443276000, 50400⟩, ⟨1459605600, 46800⟩,
    ⟨1474725600, 50400⟩, ⟨1491055200, 46800⟩, ⟨1506175200, 50400⟩, ⟨1522504800, 46800⟩,
    ⟨1538229600, 50400⟩, ⟨1554559200, 46800⟩, ⟨1569679200, 50400⟩, ⟨1586008800, 46800⟩,
    ⟨1601128800, 50400⟩, ⟨1617458400, 46800⟩]
  tail := .constant

def cairo : Zone where
  name := "Africa/Cairo"
  initial := 7509
  history := Zone.chain 7509 [
    ⟨-2185409109, 7200⟩, ⟨-929844000, 10800⟩, ⟨-923108400, 7200⟩, ⟨-906170400, 10800⟩,
    ⟨-892868400, 7200⟩, ⟨-875844000, 10800⟩, ⟨-857790000, 7200⟩, ⟨-844308000, 10800⟩,
    ⟨-825822000, 7200⟩, ⟨-812685600, 10800⟩, ⟨-794199600, 7200⟩, ⟨-779853600, 10800⟩,
    ⟨-762663600, 7200⟩, ⟨-399088800, 10800⟩, ⟨-386650800, 7200⟩, ⟨-368330400, 10800⟩,
    ⟨-355114800, 7200⟩, ⟨-336790800, 10800⟩, ⟨-323654400, 7200⟩, ⟨-305168400, 10800⟩,
    ⟨-292032000, 7200⟩, ⟨-273632400, 10800⟩, ⟨-260496000, 7200⟩, ⟨-242096400, 10800⟩,
    ⟨-228960000, 7200⟩, ⟨-210560400, 10800⟩, ⟨-197424000, 7200⟩, ⟨-178938000, 10800⟩,
    ⟨-165801600, 7200⟩, ⟨-147402000, 10800⟩, ⟨-134265600, 7200⟩, ⟨-115866000, 10800⟩,
    ⟨-102643200, 7200⟩, ⟨-84330000, 10800⟩, ⟨-71107200, 7200⟩, ⟨-52707600, 10800⟩,
    ⟨-39484800, 7200⟩, ⟨-21171600, 10800⟩, ⟨-7948800, 7200⟩, ⟨10364400, 10800⟩, ⟨23587200, 7200⟩,
    ⟨41900400, 10800⟩, ⟨55123200, 7200⟩, ⟨73522800, 10800⟩, ⟨86745600, 7200⟩, ⟨105058800, 10800⟩,
    ⟨118281600, 7200⟩, ⟨136594800, 10800⟩, ⟨149817600, 7200⟩, ⟨168130800, 10800⟩, ⟨181353600, 7200⟩,
    ⟨199753200, 10800⟩, ⟨212976000, 7200⟩, ⟨231289200, 10800⟩, ⟨244512000, 7200⟩,
    ⟨262825200, 10800⟩, ⟨276048000, 7200⟩, ⟨294361200, 10800⟩, ⟨307584000, 7200⟩,
    ⟨325983600, 10800⟩, ⟨339206400, 7200⟩, ⟨357519600, 10800⟩, ⟨370742400, 7200⟩,
    ⟨396399600, 10800⟩, ⟨402278400, 7200⟩, ⟨426812400, 10800⟩, ⟨433814400, 7200⟩,
    ⟨452214000, 10800⟩, ⟨465436800, 7200⟩, ⟨483750000, 10800⟩, ⟨496972800, 7200⟩,
    ⟨515286000, 10800⟩, ⟨528508800, 7200⟩, ⟨546822000, 10800⟩, ⟨560044800, 7200⟩,
    ⟨578444400, 10800⟩, ⟨591667200, 7200⟩, ⟨610412400, 10800⟩, ⟨623203200, 7200⟩,
    ⟨641516400, 10800⟩, ⟨654739200, 7200⟩, ⟨673052400, 10800⟩, ⟨686275200, 7200⟩,
    ⟨704674800, 10800⟩, ⟨717897600, 7200⟩, ⟨736210800, 10800⟩, ⟨749433600, 7200⟩,
    ⟨767746800, 10800⟩, ⟨780969600, 7200⟩, ⟨799020000, 10800⟩, ⟨812322000, 7200⟩,
    ⟨830469600, 10800⟩, ⟨843771600, 7200⟩, ⟨861919200, 10800⟩, ⟨875221200, 7200⟩,
    ⟨893368800, 10800⟩, ⟨906670800, 7200⟩, ⟨925423200, 10800⟩, ⟨938725200, 7200⟩,
    ⟨956872800, 10800⟩, ⟨970174800, 7200⟩, ⟨988322400, 10800⟩, ⟨1001624400, 7200⟩,
    ⟨1019772000, 10800⟩, ⟨1033074000, 7200⟩, ⟨1051221600, 10800⟩, ⟨1064523600, 7200⟩,
    ⟨1083276000, 10800⟩, ⟨1096578000, 7200⟩, ⟨1114725600, 10800⟩, ⟨1128027600, 7200⟩,
    ⟨1146175200, 10800⟩, ⟨1158872400, 7200⟩, ⟨1177624800, 10800⟩, ⟨1189112400, 7200⟩,
    ⟨1209074400, 10800⟩, ⟨1219957200, 7200⟩, ⟨1240524000, 10800⟩, ⟨1250802000, 7200⟩,
    ⟨1272578400, 10800⟩, ⟨1281474000, 7200⟩, ⟨1284069600, 10800⟩, ⟨1285880400, 7200⟩,
    ⟨1400191200, 10800⟩, ⟨1403816400, 7200⟩, ⟨1406844000, 10800⟩, ⟨1411678800, 7200⟩,
    ⟨1682632800, 10800⟩]
  tail := .yearly ⟨7200, 10800, ⟨4, 5, 5, 0⟩, ⟨10, 5, 4, 86400⟩⟩

def fiveWest : Zone where
  name := "Etc/GMT+5"
  initial := -18000
  history := []
  tail := .constant

def zones : List Zone :=
  [.utc, losAngeles, newYork, havana, saoPaulo, stJohns, berlin, london, dublin, beirut, kolkata,
    kathmandu, lordHowe, chatham, apia, cairo, fiveWest]

/-- The zone of a name; letters count with their case. -/
def find (name : String) : Except ZoneFailure Zone :=
  match zones.find? (·.name == name) with
  | some z => .ok z
  | none => .error .missing

scoped instance database : ZoneDatabase where
  find := find
  find_utc := rfl

end AnomalyWindows.Calendar.ZoneTable
