import JsonPath.Unicode.Runs

/-!
# Where texts are divided

Three properties of characters serve to find the boundaries of what a reader takes for one
character, of words and of sentences. Each divides all code points into classes.

* `BoundaryProperty.named?` gives the class that a name stands for.
-/

namespace JsonPath

/-- A property that divides all code points into classes. A class is told by its code. -/
structure BoundaryProperty where
  /-- The lower-case names of every class, its code first. The class `xx` of all that plays no part
  has none. -/
  names : List (List String)
  /-- The codes of the classes of all code points. -/
  table : Runs String

namespace BoundaryProperty

/-- The code of the class that a lower-case name without blanks stands for. -/
def named? (p : BoundaryProperty) (name : String) : Option String :=
  (p.names.find? (·.contains name)).bind List.head?

/-- The runs of one class of `Grapheme_Cluster_Break`: their lengths and its code. -/
def graphemeBreakText : String :=
  String.join [
    "10cn1lf2cn1cr18cn95xx33cn13xx1cn594xx112ex275xx7ex263xx45ex1xx1ex1xx2ex1xx2ex1xx1ex56xx6pp",
    "10xx11ex1xx1cn46xx21ex16xx1ex101xx7ex1pp1xx6ex2xx2ex1xx4ex33xx1pp1xx1ex30xx27ex91xx11ex",
    "58xx9ex9xx1ex24xx4ex1xx9ex1xx3ex1xx5ex43xx3ex52xx2pp5xx9ex42xx24ex1pp32ex1sm54xx1ex1sm1ex",
    "1xx3sm8ex4sm1ex2sm1xx7ex10xx2ex29xx1ex2sm56xx1ex1xx1ex2sm4ex2xx2sm2xx2sm1ex9xx1ex10xx2ex",
    "26xx1ex2xx2ex1sm56xx1ex1xx3sm2ex4xx2ex2xx3ex3xx1ex30xx2ex3xx1ex11xx2ex1sm56xx1ex1xx3sm5ex",
    "1xx2ex1sm1xx2sm1ex20xx2ex22xx6ex1xx1ex2sm56xx1ex1xx2ex1sm4ex2xx2sm2xx2sm1ex7xx3ex10xx2ex",
    "30xx1ex59xx1ex1sm1ex2sm3xx3sm1xx3sm1ex9xx1ex40xx1ex3sm1ex55xx1ex1xx3ex4sm1xx3ex1xx4ex7xx",
    "2ex11xx2ex29xx1ex2sm56xx1ex1xx1sm2ex1sm1ex2sm1xx3ex1xx4ex7xx2ex11xx2ex15xx1sm12xx2ex2sm",
    "55xx2ex1xx1ex2sm4ex1xx3sm1xx3sm1ex1pp8xx1ex10xx2ex29xx1ex2sm70xx1ex4xx1ex2sm3ex1xx1ex1xx",
    "7sm1ex18xx2sm61xx1ex1xx1sm7ex12xx8ex98xx1ex1xx1sm9ex11xx7ex73xx2ex27xx1ex1xx1ex1xx1ex4xx",
    "2sm49xx14ex1sm5ex1xx2ex5xx11ex1xx36ex9xx1ex102xx4ex1sm6ex1xx2ex2sm2ex23xx2sm2ex4xx3ex16xx",
    "4ex13xx1ex1xx1sm2ex6xx1ex15xx1ex98xx96l72v88t349xx3ex946xx4ex28xx3ex29xx2ex30xx2ex64xx2ex",
    "1sm7ex8sm1ex2sm11ex9xx1ex45xx3ex1cn1ex117xx2ex34xx1ex118xx3ex4sm2ex3sm4xx2sm1ex6sm3ex219xx",
    "2ex2sm1ex57xx1sm1ex1sm7ex1xx1ex1xx1ex2xx8ex6sm10ex2xx1ex48xx31ex49xx4ex1sm47xx10ex4sm3ex",
    "38xx9ex12xx2ex1sm30xx1sm4ex2sm6ex56xx1ex1sm2ex3sm1ex1sm5ex48xx8sm8ex2sm2ex152xx3ex1xx13ex",
    "1sm7ex4xx1ex6xx1ex2xx1sm2ex198xx64ex523xx1cn1ex1zwj2cn24xx7cn49xx16cn96xx33ex3070xx3ex",
    "141xx1ex96xx32ex554xx6ex105xx2ex30164xx4ex1xx10ex32xx2ex80xx2ex272xx1ex3xx1ex4xx1ex23xx2sm",
    "2ex1sm4xx1ex83xx2sm50xx16sm2ex26xx18ex13xx1ex38xx8ex25xx11ex1sm1ex12xx29l3xx3ex1sm47xx1ex",
    "2sm4ex2sm2ex2sm1ex36xx1ex67xx6ex2sm2ex2sm2ex12xx1ex8xx1ex1sm46xx1ex51xx1ex1xx3ex2xx2ex5xx",
    "2ex1xx1ex41xx1sm2ex2sm5xx1sm1ex236xx2sm1ex2sm1ex2sm1xx1sm1ex18xx1lv27lvt1lv27lvt1lv27lvt",
    "1lv27lvt1lv27lvt1lv27lvt1lv27lvt1lv27lvt1lv27lvt1lv27lvt1lv27lvt1lv27lvt1lv27lvt1lv27lvt",
    "1lv27lvt1lv27lvt1lv27lvt1lv27lvt1lv27lvt1lv27lvt1lv27lvt1lv27lvt1lv27lvt1lv27lvt1lv27lvt",
    "1lv27lvt1lv27lvt1lv27lvt1lv27lvt1lv27lvt1lv27lvt1lv27lvt1lv27lvt1lv27lvt1lv27lvt1lv27lvt",
    "1lv27lvt1lv27lvt1lv27lvt1lv27lvt1lv27lvt1lv27lvt1lv27lvt1lv27lvt1lv27lvt1lv27lvt1lv27lvt",
    "1lv27lvt1lv27lvt1lv27lvt1lv27lvt1lv27lvt1lv27lvt1lv27lvt1lv27lvt1lv27lvt1lv27lvt1lv27lvt",
    "1lv27lvt1lv27lvt1lv27lvt1lv27lvt1lv27lvt1lv27lvt1lv27lvt1lv27lvt1lv27lvt1lv27lvt1lv27lvt",
    "1lv27lvt1lv27lvt1lv27lvt1lv27lvt1lv27lvt1lv27lvt1lv27lvt1lv27lvt1lv27lvt1lv27lvt1lv27lvt",
    "1lv27lvt1lv27lvt1lv27lvt1lv27lvt1lv27lvt1lv27lvt1lv27lvt1lv27lvt1lv27lvt1lv27lvt1lv27lvt",
    "1lv27lvt1lv27lvt1lv27lvt1lv27lvt1lv27lvt1lv27lvt1lv27lvt1lv27lvt1lv27lvt1lv27lvt1lv27lvt",
    "1lv27lvt1lv27lvt1lv27lvt1lv27lvt1lv27lvt1lv27lvt1lv27lvt1lv27lvt1lv27lvt1lv27lvt1lv27lvt",
    "1lv27lvt1lv27lvt1lv27lvt1lv27lvt1lv27lvt1lv27lvt1lv27lvt1lv27lvt1lv27lvt1lv27lvt1lv27lvt",
    "1lv27lvt1lv27lvt1lv27lvt1lv27lvt1lv27lvt1lv27lvt1lv27lvt1lv27lvt1lv27lvt1lv27lvt1lv27lvt",
    "1lv27lvt1lv27lvt1lv27lvt1lv27lvt1lv27lvt1lv27lvt1lv27lvt1lv27lvt1lv27lvt1lv27lvt1lv27lvt",
    "1lv27lvt1lv27lvt1lv27lvt1lv27lvt1lv27lvt1lv27lvt1lv27lvt1lv27lvt1lv27lvt1lv27lvt1lv27lvt",
    "1lv27lvt1lv27lvt1lv27lvt1lv27lvt1lv27lvt1lv27lvt1lv27lvt1lv27lvt1lv27lvt1lv27lvt1lv27lvt",
    "1lv27lvt1lv27lvt1lv27lvt1lv27lvt1lv27lvt1lv27lvt1lv27lvt1lv27lvt1lv27lvt1lv27lvt1lv27lvt",
    "1lv27lvt1lv27lvt1lv27lvt1lv27lvt1lv27lvt1lv27lvt1lv27lvt1lv27lvt1lv27lvt1lv27lvt1lv27lvt",
    "1lv27lvt1lv27lvt1lv27lvt1lv27lvt1lv27lvt1lv27lvt1lv27lvt1lv27lvt1lv27lvt1lv27lvt1lv27lvt",
    "1lv27lvt1lv27lvt1lv27lvt1lv27lvt1lv27lvt1lv27lvt1lv27lvt1lv27lvt1lv27lvt1lv27lvt1lv27lvt",
    "1lv27lvt1lv27lvt1lv27lvt1lv27lvt1lv27lvt1lv27lvt1lv27lvt1lv27lvt1lv27lvt1lv27lvt1lv27lvt",
    "1lv27lvt1lv27lvt1lv27lvt1lv27lvt1lv27lvt1lv27lvt1lv27lvt1lv27lvt1lv27lvt1lv27lvt1lv27lvt",
    "1lv27lvt1lv27lvt1lv27lvt1lv27lvt1lv27lvt1lv27lvt1lv27lvt1lv27lvt1lv27lvt1lv27lvt1lv27lvt",
    "1lv27lvt1lv27lvt1lv27lvt1lv27lvt1lv27lvt1lv27lvt1lv27lvt1lv27lvt1lv27lvt1lv27lvt1lv27lvt",
    "1lv27lvt1lv27lvt1lv27lvt1lv27lvt1lv27lvt1lv27lvt1lv27lvt1lv27lvt1lv27lvt1lv27lvt1lv27lvt",
    "1lv27lvt1lv27lvt1lv27lvt1lv27lvt1lv27lvt1lv27lvt1lv27lvt1lv27lvt1lv27lvt1lv27lvt1lv27lvt",
    "1lv27lvt1lv27lvt1lv27lvt1lv27lvt1lv27lvt1lv27lvt1lv27lvt1lv27lvt1lv27lvt1lv27lvt1lv27lvt",
    "1lv27lvt1lv27lvt1lv27lvt1lv27lvt1lv27lvt1lv27lvt1lv27lvt1lv27lvt1lv27lvt1lv27lvt1lv27lvt",
    "1lv27lvt1lv27lvt1lv27lvt1lv27lvt1lv27lvt1lv27lvt1lv27lvt1lv27lvt1lv27lvt1lv27lvt1lv27lvt",
    "1lv27lvt1lv27lvt1lv27lvt1lv27lvt1lv27lvt1lv27lvt1lv27lvt1lv27lvt1lv27lvt1lv27lvt1lv27lvt",
    "1lv27lvt1lv27lvt1lv27lvt1lv27lvt1lv27lvt1lv27lvt1lv27lvt1lv27lvt1lv27lvt1lv27lvt1lv27lvt",
    "1lv27lvt1lv27lvt1lv27lvt1lv27lvt1lv27lvt1lv27lvt1lv27lvt1lv27lvt1lv27lvt1lv27lvt1lv27lvt",
    "1lv27lvt1lv27lvt1lv27lvt1lv27lvt1lv27lvt1lv27lvt1lv27lvt1lv27lvt1lv27lvt1lv27lvt1lv27lvt",
    "1lv27lvt1lv27lvt1lv27lvt1lv27lvt1lv27lvt1lv27lvt1lv27lvt1lv27lvt1lv27lvt1lv27lvt1lv27lvt",
    "1lv27lvt1lv27lvt1lv27lvt1lv27lvt1lv27lvt1lv27lvt1lv27lvt1lv27lvt1lv27lvt1lv27lvt1lv27lvt",
    "1lv27lvt1lv27lvt1lv27lvt1lv27lvt1lv27lvt1lv27lvt1lv27lvt1lv27lvt1lv27lvt1lv27lvt1lv27lvt",
    "1lv27lvt1lv27lvt1lv27lvt1lv27lvt1lv27lvt1lv27lvt1lv27lvt1lv27lvt1lv27lvt1lv27lvt1lv27lvt",
    "12xx23v4xx49t4xx2048cn6942xx1ex737xx16ex16xx16ex207xx1cn158xx2ex80xx12cn513xx1ex226xx1ex",
    "149xx5ex1670xx3ex1xx2ex5xx4ex40xx3ex4xx1ex165xx2ex573xx4ex65xx5ex317xx2ex79xx4ex70xx11ex",
    "49xx4ex122xx1sm1ex1sm53xx15ex41xx1ex2xx2ex10xx3ex1sm45xx3sm4ex2sm2ex2xx1pp4xx1ex10xx1pp",
    "50xx3ex36xx5ex1sm8ex16xx2sm44xx1ex12xx2ex1sm48xx3sm9ex1sm1ex1xx2pp5xx4ex1xx1sm1ex92xx3sm",
    "3ex2sm4ex6xx1ex2xx1ex157xx1ex3sm8ex21xx2ex2sm55xx2ex1xx1ex1sm1ex4sm2xx2sm2xx2sm1ex9xx1ex",
    "10xx2sm2xx7ex3xx5ex67xx1ex2sm6ex1xx1ex2xx1ex1xx3ex1sm1xx2sm3ex1pp1ex14xx2ex82xx3sm8ex2sm",
    "3ex1sm1ex23xx1ex81xx1ex2sm6ex1sm1ex2sm1ex1sm2ex1sm2ex235xx1ex2sm4ex2xx4sm2ex1sm2ex27xx2ex",
    "82xx3sm8ex2sm1ex1sm2ex106xx1ex1sm1ex2sm8ex101xx1ex1sm1ex2xx4ex1sm5ex256xx3sm9ex1sm2ex245xx",
    "1ex5sm1xx2sm2xx4ex1pp1sm1pp1sm1ex141xx3sm4ex2xx2ex4sm1ex3xx1sm28xx10ex40xx6ex1sm1pp4ex8xx",
    "1ex9xx6ex2sm3ex40xx6pp13ex1sm2ex405xx1sm7ex1xx6ex1sm1ex82xx22ex1xx1sm7ex1sm2ex1sm2ex122xx",
    "6ex3xx1ex1xx2ex1xx7ex1pp1ex66xx5sm1xx2ex1xx2sm1ex1sm1ex347xx2ex2sm9xx2ex1pp1sm48xx2sm5ex",
    "3xx2sm3ex23xx1ex5333xx16cn1ex6xx15ex11464xx12ex3sm3ex2496xx5ex59xx7ex556xx1v3xx4v484xx1ex",
    "1xx55sm7xx4ex81xx1ex11xx2ex19627xx2ex1xx4cn4700xx46ex2xx23ex542xx5ex3xx6ex8cn8ex2xx7ex30xx",
    "4ex148xx3ex1979xx55ex4xx50ex8xx1ex14xx1ex22xx5ex1xx15ex1360xx7ex1xx17ex2xx7ex1xx2ex1xx5ex",
    "100xx1ex160xx7ex375xx1ex61xx4ex508xx4ex254xx2ex736xx7ex109xx7ex2203xx26ri507xx5ex789504xx",
    "32cn96ex128cn240ex3600cn192512xx"]

/-- The boundaries of what a reader takes for one character. -/
def graphemeBreak : BoundaryProperty where
  names := [
    ["cn", "control"], ["cr"], ["ex", "extend"], ["l"], ["lf"], ["lv"], ["lvt"],
    ["pp", "prepend"], ["ri", "regionalindicator"], ["sm", "spacingmark"], ["t"], ["v"], ["zwj"]]
  table := Runs.decode graphemeBreakText

/-- The runs of one class of `Word_Break`: their lengths and its code. -/
def wordBreakText : String :=
  String.join [
    "10xx1lf2nl1cr18xx1wsegspace1xx1dq4xx1sq4xx1mn1xx1mb1xx10nu1ml1mn5xx26le4xx1ex1xx26le10xx",
    "1nl36xx1le2xx1fo7xx1le1xx1ml2xx1le5xx23le1xx31le1xx480le6xx34le112extend5le1xx2le2xx4le1mn",
    "1le6xx1le1ml3le1xx1le1xx20le1xx83le1xx139le1xx7extend166le1xx38le2xx4le1xx1le1ml41le1mn1le",
    "6xx45extend1xx1extend1xx2extend1xx2extend1xx1extend8xx27hl4xx4hl1le1ml11xx6nu6xx2mn2xx",
    "11extend1xx1fo3xx43le21extend10nu1xx1nu1mn1xx2le1extend99le1xx1le7extend1nu1xx6extend2le",
    "2extend1xx4extend2le10nu3le2xx1le15xx2le1extend30le27extend2xx89le11extend1le14xx10nu33le",
    "9extend2le2xx1mn1xx1le2xx1extend2xx22le4extend1le9extend1le3extend1le5extend18xx25le",
    "3extend4xx11le5xx24le1xx6le1xx2nu5xx9extend42le24extend1nu33extend54le3extend1le18extend",
    "1le7extend10le2extend2xx10nu1xx16le3extend1xx8le2xx2le2xx22le1xx7le1xx1le3xx4le2xx1extend",
    "1le7extend2xx2extend2xx3extend1le8xx1extend4xx2le1xx3le2extend2xx10nu2le10xx1le1xx1extend",
    "2xx3extend1xx6le4xx2le2xx22le1xx7le1xx2le1xx2le1xx2le2xx1extend1xx5extend4xx2extend2xx",
    "3extend3xx1extend7xx4le1xx1le7xx10nu2extend3le1extend11xx3extend1xx9le1xx3le1xx22le1xx7le",
    "1xx2le1xx5le2xx1extend1le8extend1xx3extend1xx3extend2xx1le15xx2le2extend2xx10nu9xx1le",
    "6extend1xx3extend1xx8le2xx2le2xx22le1xx7le1xx2le1xx5le2xx1extend1le7extend2xx2extend2xx",
    "3extend7xx3extend4xx2le1xx3le2extend2xx10nu1xx1le16xx1extend1le1xx6le3xx3le1xx4le3xx2le1xx",
    "1le1xx2le3xx2le3xx3le3xx12le4xx5extend3xx3extend1xx4extend2xx1le6xx1extend14xx10nu16xx",
    "5extend8le1xx3le1xx23le1xx16le2xx1extend1le7extend1xx3extend1xx4extend7xx2extend1xx3le2xx",
    "1le2xx2le2extend2xx10nu16xx1le3extend1xx8le1xx3le1xx23le1xx10le1xx5le2xx1extend1le7extend",
    "1xx3extend1xx4extend7xx2extend6xx2le1xx2le2extend2xx10nu1xx2le1extend12xx4extend9le1xx3le",
    "1xx41le2extend1le7extend1xx3extend1xx4extend1le5xx3le1extend7xx3le2extend2xx10nu10xx6le1xx",
    "3extend1xx18le3xx24le1xx9le1xx1le2xx7le3xx1extend4xx6extend1xx1extend1xx8extend6xx10nu2xx",
    "2extend61xx1extend2xx7extend12xx8extend1xx10nu87xx1extend2xx9extend11xx7extend1xx10nu38xx",
    "1le23xx2extend6xx10nu11xx1extend1xx1extend1xx1extend4xx2extend8le1xx36le4xx20extend1xx",
    "2extend5le11extend1xx36extend9xx1extend100xx20extend1xx10nu12xx4extend4xx3extend1xx3extend",
    "2xx7extend3xx4extend13xx12extend1xx1extend10nu4extend2xx38le1xx1le5xx1le2xx43le1xx333le1xx",
    "4le2xx7le1xx1le1xx4le2xx41le1xx4le2xx33le1xx4le2xx7le1xx1le1xx4le2xx15le1xx57le1xx4le2xx",
    "67le2xx3extend32xx16le16xx86le2xx6le3xx620le2xx17le1wsegspace26le5xx75le3xx11le7xx18le",
    "4extend9xx19le3extend11xx18le2extend12xx13le1xx3le1xx2extend64xx32extend9xx1extend2xx10nu",
    "33xx3extend1fo1extend10nu6xx89le7xx5le2extend34le1extend1le5xx70le10xx31le1xx12extend4xx",
    "12extend10xx10nu128xx10nu38xx23le5extend57xx10extend1xx29extend2xx1extend10nu6xx10nu22xx",
    "31extend49xx5extend47le17extend8le3xx10nu17xx9extend12xx3extend30le13extend2le10nu44le",
    "14extend12xx36le20extend8xx10nu3xx3le10nu36le2xx11le5xx43le2xx3le16xx3extend1xx21extend4le",
    "1extend6le1extend2le3extend1le5xx192le64extend278le2xx6le2xx38le2xx6le2xx8le1xx1le1xx1le",
    "1xx1le1xx31le2xx53le1xx7le1xx1le3xx3le1xx7le3xx4le2xx6le4xx13le5xx3le1xx7le3xx7wsegspace",
    "1xx3wsegspace1xx1extend1zwj2fo8xx2mb10xx1mb2xx1ml2nl5fo1ex15xx2ex3xx1mn15xx1ex10xx",
    "1wsegspace5fo1xx10fo1xx1le13xx1le16xx13le51xx33extend17xx1le4xx1le2xx10le1xx1le3xx5le6xx",
    "1le1xx1le1xx1le1xx4le1xx11le2xx4le5xx5le4xx1le17xx41le813xx52le1814xx229le6xx4le3extend2le",
    "12xx38le1xx1le5xx1le2xx56le7xx1le15xx1extend23le9xx7le1xx7le1xx7le1xx7le1xx7le1xx7le1xx7le",
    "1xx7le1xx32extend47xx1le464xx1wsegspace4xx1le36xx6extend1xx5ka5xx2le92xx2extend2ka3xx91ka",
    "1xx4ka5xx43le1xx94le17xx32le48xx16ka208xx47ka1xx88ka27816xx1165le67xx46le2xx269le3xx16le",
    "10nu2le20xx47le4extend1xx10extend1xx31le2extend80le2extend22xx198le2xx2le1xx1le1xx8le21xx",
    "16le1extend3le1extend4le1extend23le5extend4xx1extend19xx52le12xx2extend50le18extend10xx",
    "10nu6xx18extend6le3xx1le1xx2le1extend10nu28le8extend2xx23le13extend12xx29le3xx4extend47le",
    "14extend14xx1le10nu11xx1extend10xx10nu6xx41le14extend9xx3le1extend8le2extend2xx10nu33xx",
    "3extend50xx1extend1xx3extend2xx2extend5xx2extend1xx1extend30xx11le5extend2xx3le2extend10xx",
    "6le2xx6le2xx6le9xx7le1xx7le1xx58le6xx115le8extend1xx2extend2xx10nu6xx11172le12xx23le4xx",
    "49le8964xx7le12xx5le5xx1hl1extend10hl1xx13hl1xx5hl1xx1hl1xx2hl1xx2hl1xx10hl98le33xx363le",
    "18xx64le2xx54le40xx12le4xx16extend1mn2xx1ml1mn11xx16extend3xx2ex24xx3ex1mn1xx1mb1xx1mn1ml",
    "26xx5le1xx135le2xx1fo7xx1mb4xx1mn1xx1mb1xx10nu1ml1mn5xx26le4xx1ex1xx26le11xx56ka2extend",
    "31le3xx6le2xx6le2xx6le2xx3le28xx3fo4xx12le1xx26le1xx19le1xx2le1xx15le2xx14le34xx123le69xx",
    "53le136xx1extend130xx29le3xx49le15xx1extend31xx32le13xx30le5xx38le5extend5xx30le2xx36le4xx",
    "8le1xx5le42xx158le2xx10nu6xx36le4xx36le4xx40le8xx52le12xx11le1xx15le1xx7le1xx2le1xx11le1xx",
    "15le1xx7le1xx2le3xx52le12xx311le9xx22le10xx8le24xx6le1xx42le1xx9le69xx6le2xx1le1xx44le1xx",
    "2le3xx1le2xx23le10xx23le9xx31le65xx19le1xx2le10xx22le10xx26le70xx56le6xx2le64xx1le3extend",
    "1xx2extend5xx4extend4le1xx3le1xx29le2xx3extend4xx1extend32xx29le3xx29le35xx8le1xx28le",
    "2extend25xx54le10xx22le10xx19le13xx18le110xx73le55xx51le13xx51le13xx36le4extend8xx10nu6xx",
    "10nu28le3xx5extend1xx23le250xx42le1xx2extend3xx2le16xx3le55xx4extend29le10xx1le8xx22le",
    "11extend31xx18le4extend42xx21le27xx23le9xx3extend53le15extend31xx10nu1extend2le2extend1le",
    "9xx4extend45le11extend2xx1nu4xx1extend10xx1nu2xx25le7xx10nu6xx3extend36le14extend1xx10nu",
    "4xx1le2extend1le8xx35le1extend2xx1le9xx3extend48le14extend4le4xx4extend1xx2extend10nu1le",
    "1xx1le35xx18le1xx25le12extend6xx1extend2le1extend62xx7le1xx1le1xx4le1xx15le1xx10le7xx47le",
    "12extend5xx10nu6xx4extend1xx8le2xx2le2xx22le1xx7le1xx2le1xx5le1xx2extend1le7extend2xx",
    "2extend2xx3extend2xx1le6xx1extend5xx5le2extend2xx7extend3xx5extend11xx10le1xx1le2xx1le1xx",
    "38le1xx1le9extend1xx1extend2xx1extend1xx4extend1xx5extend1le1extend1le13xx2extend29xx53le",
    "18extend4le5xx10nu4xx1extend3le30xx48le20extend2le1xx1le8xx10nu166xx47le7extend2xx9extend",
    "23xx4le2extend34xx48le17extend3xx1le11xx10nu38xx43le13extend1le7xx10nu6xx20nu57xx15extend",
    "4xx10nu198xx44le15extend101xx64le10nu21xx8le2xx1le2xx8le1xx2le1xx24le6extend1xx2extend2xx",
    "4extend1le1extend1le2extend12xx10nu70xx8le2xx39le7extend2xx7extend1le1xx1le1extend27xx1le",
    "10extend40le7extend1le4extend8xx1extend8xx1le11extend46le16extend3xx1le18xx73le199xx33le",
    "15xx10nu6xx9le1xx37le8extend1xx8extend1le15xx10nu24xx30le2xx22extend1xx14extend73xx7le1xx",
    "2le1xx38le6extend3xx1extend1xx2extend1xx7extend1le1extend8xx10nu6xx6le1xx2le1xx32le5extend",
    "1xx2extend1xx5extend1le7xx10nu310xx19le4extend9xx2extend1le1extend13le1xx34le7extend3xx",
    "5extend13xx10nu1extend85xx1le79xx922le102xx111le17xx196le2636xx97le15xx1072le16fo1extend",
    "6le15extend10xx3995le5xx583le6841xx30le18extend10nu1734xx569le7xx31le1xx10nu6xx79le1xx10nu",
    "6xx30le2xx5extend11xx48le7extend9xx4le12xx10nu9xx21le5xx19le432xx45le3xx10nu198xx64le128xx",
    "75le4xx1extend1le55extend7xx4extend13le64xx2le1xx1le1extend11xx2extend16382xx4ka1xx7ka1xx",
    "2ka1xx1ka287xx3ka50xx1ka14xx4ka2712xx107le5xx13le3xx9le7xx10le3xx2extend1xx4fo4172xx10nu",
    "518xx46extend2xx23extend542xx5extend3xx6extend8fo8extend2xx7extend30xx4extend148xx3extend",
    "443xx85le1xx71le1xx2le2xx1le2xx2le2xx4le1xx12le1xx1le1xx7le1xx65le1xx4le2xx8le1xx7le1xx",
    "28le1xx4le1xx5le1xx1le3xx7le1xx340le2xx25le1xx25le1xx31le1xx25le1xx31le1xx25le1xx31le1xx",
    "25le1xx31le1xx25le1xx8le2xx50nu512xx55extend4xx50extend8xx1extend14xx1extend22xx5extend1xx",
    "15extend1104xx31le6xx6le213xx7extend1xx17extend2xx7extend1xx2extend1xx5extend5xx62le33xx",
    "1extend112xx45le3xx7extend7le2xx10nu4xx1le321xx30le1extend17xx44le4extend10nu470xx28le",
    "4extend10nu214xx30le2extend1le10nu485xx7le1xx4le1xx2le1xx15le1xx197le11xx7extend41xx68le",
    "7extend1le4xx10nu1190xx4le1xx27le1xx2le1xx1le2xx1le1xx10le1xx4le1xx1le1xx1le6xx1le4xx1le",
    "1xx1le1xx1le1xx3le1xx2le1xx1le2xx1le1xx1le1xx1le1xx1le1xx1le1xx2le1xx1le2xx4le1xx7le1xx4le",
    "1xx4le1xx1le1xx10le1xx17le5xx3le1xx5le1xx17le628xx26le6xx26le6xx26le92xx26ri507xx5extend",
    "2032xx10nu787463xx1fo30xx96extend128xx240extend196112xx"]

/-- The boundaries of words. -/
def wordBreak : BoundaryProperty where
  names := [
    ["cr"], ["dq", "doublequote"], ["ex", "extendnumlet"], ["extend"], ["fo", "format"],
    ["hl", "hebrewletter"], ["ka", "katakana"], ["le", "aletter"], ["lf"], ["mb", "midnumlet"],
    ["ml", "midletter"], ["mn", "midnum"], ["nl", "newline"], ["nu", "numeric"],
    ["ri", "regionalindicator"], ["sq", "singlequote"], ["wsegspace"], ["zwj"]]
  table := Runs.decode wordBreakText

/-- The runs of one class of `Sentence_Break`: their lengths and its code. -/
def sentenceBreakText : String :=
  String.join [
    "9xx1sp1lf2sp1cr18xx1sp1st1cl4xx3cl2xx2sc1at1xx10nu2sc3xx1st1xx26up1cl1xx1cl3xx26lo1cl1xx",
    "1cl7xx1se26xx1sp9xx1lo1cl1xx1fo7xx1lo4xx1lo1cl4xx23up1xx7up24lo1xx8lo1up1lo1up1lo1up1lo1up",
    "1lo1up1lo1up1lo1up1lo1up1lo1up1lo1up1lo1up1lo1up1lo1up1lo1up1lo1up1lo1up1lo1up1lo1up1lo1up",
    "1lo1up1lo1up1lo1up1lo1up1lo1up1lo1up1lo1up1lo1up1lo1up2lo1up1lo1up1lo1up1lo1up1lo1up1lo1up",
    "1lo1up1lo1up2lo1up1lo1up1lo1up1lo1up1lo1up1lo1up1lo1up1lo1up1lo1up1lo1up1lo1up1lo1up1lo1up",
    "1lo1up1lo1up1lo1up1lo1up1lo1up1lo1up1lo1up1lo1up1lo1up1lo1up1lo2up1lo1up1lo1up3lo2up1lo1up",
    "1lo2up1lo3up2lo4up1lo2up1lo3up3lo2up1lo2up1lo1up1lo1up1lo2up1lo1up2lo1up1lo2up1lo3up1lo1up",
    "1lo2up2lo1le1up3lo4le2up1lo2up1lo2up1lo1up1lo1up1lo1up1lo1up1lo1up1lo1up1lo1up1lo1up2lo1up",
    "1lo1up1lo1up1lo1up1lo1up1lo1up1lo1up1lo1up1lo1up2lo2up1lo1up1lo3up1lo1up1lo1up1lo1up1lo1up",
    "1lo1up1lo1up1lo1up1lo1up1lo1up1lo1up1lo1up1lo1up1lo1up1lo1up1lo1up1lo1up1lo1up1lo1up1lo1up",
    "1lo1up1lo1up1lo1up1lo1up1lo1up1lo1up1lo1up1lo1up1lo1up1lo1up7lo2up1lo2up2lo1up1lo4up1lo1up",
    "1lo1up1lo1up1lo1up69lo1le36lo7le2lo4xx12le14xx5lo7xx1le1xx1le17xx112ex1up1lo1up1lo1le1xx",
    "1up1lo2xx4lo1sc1up6xx1up1xx3up1xx1up1xx2up1lo17up1xx9up35lo1up2lo3up3lo1up1lo1up1lo1up1lo",
    "1up1lo1up1lo1up1lo1up1lo1up1lo1up1lo1up1lo1up1lo1up5lo1up1lo1xx1up1lo2up2lo51up48lo1up1lo",
    "1up1lo1up1lo1up1lo1up1lo1up1lo1up1lo1up1lo1up1lo1up1lo1up1lo1up1lo1up1lo1up1lo1up1lo1up1lo",
    "1up1lo1xx7ex1up1lo1up1lo1up1lo1up1lo1up1lo1up1lo1up1lo1up1lo1up1lo1up1lo1up1lo1up1lo1up1lo",
    "1up1lo1up1lo1up1lo1up1lo1up1lo1up1lo1up1lo1up1lo1up1lo1up1lo1up1lo1up1lo1up1lo1up1lo2up1lo",
    "1up1lo1up1lo1up1lo1up1lo1up1lo1up2lo1up1lo1up1lo1up1lo1up1lo1up1lo1up1lo1up1lo1up1lo1up1lo",
    "1up1lo1up1lo1up1lo1up1lo1up1lo1up1lo1up1lo1up1lo1up1lo1up1lo1up1lo1up1lo1up1lo1up1lo1up1lo",
    "1up1lo1up1lo1up1lo1up1lo1up1lo1up1lo1up1lo1up1lo1up1lo1up1lo1up1lo1up1lo1up1lo1up1lo1up1lo",
    "1up1lo1up1lo1up1lo1up1lo1up1lo1up1lo1up1lo1up1lo1up1lo1xx38up2xx1le3xx1sc2xx41lo1st7xx45ex",
    "1xx1ex1xx2ex1xx2ex1xx1ex8xx27le4xx5le12xx6nu6xx2sc2xx11ex1xx1fo3st43le21ex10nu1xx2nu1xx2le",
    "1ex99le1st1le7ex1nu1xx6ex2le2ex1xx4ex2le10nu3le2xx1le3st12xx2le1ex30le27ex2xx89le11ex1le",
    "14xx10nu33le9ex2le2xx1sc1st1le2xx1ex2xx22le4ex1le9ex1le3ex1le5ex9xx1st1xx1st3xx2st1xx25le",
    "3ex4xx11le5xx24le1xx6le1xx2nu5xx9ex42le24ex1nu33ex54le3ex1le18ex1le7ex10le2ex2st10nu1xx",
    "16le3ex1xx8le2xx2le2xx22le1xx7le1xx1le3xx4le2xx1ex1le7ex2xx2ex2xx3ex1le8xx1ex4xx2le1xx3le",
    "2ex2xx10nu2le10xx1le1xx1ex2xx3ex1xx6le4xx2le2xx22le1xx7le1xx2le1xx2le1xx2le2xx1ex1xx5ex4xx",
    "2ex2xx3ex3xx1ex7xx4le1xx1le7xx10nu2ex3le1ex11xx3ex1xx9le1xx3le1xx22le1xx7le1xx2le1xx5le2xx",
    "1ex1le8ex1xx3ex1xx3ex2xx1le15xx2le2ex2xx10nu9xx1le6ex1xx3ex1xx8le2xx2le2xx22le1xx7le1xx2le",
    "1xx5le2xx1ex1le7ex2xx2ex2xx3ex7xx3ex4xx2le1xx3le2ex2xx10nu1xx1le16xx1ex1le1xx6le3xx3le1xx",
    "4le3xx2le1xx1le1xx2le3xx2le3xx3le3xx12le4xx5ex3xx3ex1xx4ex2xx1le6xx1ex14xx10nu16xx5ex8le",
    "1xx3le1xx23le1xx16le2xx1ex1le7ex1xx3ex1xx4ex7xx2ex1xx3le2xx1le2xx2le2ex2xx10nu16xx1le3ex",
    "1xx8le1xx3le1xx23le1xx10le1xx5le2xx1ex1le7ex1xx3ex1xx4ex7xx2ex6xx2le1xx2le2ex2xx10nu1xx2le",
    "1ex12xx4ex9le1xx3le1xx41le2ex1le7ex1xx3ex1xx4ex1le5xx3le1ex7xx3le2ex2xx10nu10xx6le1xx3ex",
    "1xx18le3xx24le1xx9le1xx1le2xx7le3xx1ex4xx6ex1xx1ex1xx8ex6xx10nu2xx2ex13xx48le1ex2le7ex5xx",
    "7le8ex1xx10nu39xx2le1xx1le1xx5le1xx24le1xx1le1xx10le1ex2le9ex1le2xx5le1xx1le1xx7ex1xx10nu",
    "2xx4le32xx1le23xx2ex6xx10nu11xx1ex1xx1ex1xx1ex4cl2ex8le1xx36le4xx20ex1xx2ex5le11ex1xx36ex",
    "9xx1ex57xx43le20ex1le10nu2st4xx6le4ex4le3ex1le3ex2le7ex3le4ex13le12ex1le1ex10nu4ex2xx38up",
    "1xx1up5xx1up2xx43le1xx1lo332le1xx4le2xx7le1xx1le1xx4le2xx41le1xx4le2xx33le1xx4le2xx7le1xx",
    "1le1xx4le2xx15le1xx57le1xx4le2xx67le2xx3ex2xx1st4xx2st23xx16le16xx86up2xx6lo3xx620le1xx1st",
    "17le1sp26le2cl3xx75le3xx11le7xx18le4ex9xx19le3ex2st9xx18le2ex12xx13le1xx3le1xx2ex12xx52le",
    "32ex2st1xx1le4xx1le1ex2xx10nu24xx1sc1st4xx1sc1st1xx3ex1fo1ex10nu6xx89le7xx5le2ex34le1ex1le",
    "5xx70le10xx31le1xx12ex4xx12ex8xx2st10nu30le2xx5le11xx44le4xx26le6xx10nu38xx23le5ex4xx53le",
    "10ex1xx29ex2xx1ex10nu6xx10nu13xx1le4st4xx31ex49xx5ex47le17ex8le1xx2st10nu2st2xx2st11xx9ex",
    "9xx3st3ex30le13ex2le10nu44le14ex12xx36le20ex3xx2st3xx10nu3xx3le10nu36le2st9lo1up1lo5xx43le",
    "2xx3le16xx3ex1xx21ex4le1ex6le1ex2le3ex1le5xx192lo64ex1up1lo1up1lo1up1lo1up1lo1up1lo1up1lo",
    "1up1lo1up1lo1up1lo1up1lo1up1lo1up1lo1up1lo1up1lo1up1lo1up1lo1up1lo1up1lo1up1lo1up1lo1up1lo",
    "1up1lo1up1lo1up1lo1up1lo1up1lo1up1lo1up1lo1up1lo1up1lo1up1lo1up1lo1up1lo1up1lo1up1lo1up1lo",
    "1up1lo1up1lo1up1lo1up1lo1up1lo1up1lo1up1lo1up1lo1up1lo1up1lo1up1lo1up1lo1up1lo1up1lo1up1lo",
    "1up1lo1up1lo1up1lo1up1lo1up1lo1up1lo1up1lo1up1lo1up1lo1up1lo1up1lo1up1lo1up1lo1up1lo1up1lo",
    "1up1lo1up1lo1up1lo1up1lo1up1lo1up1lo1up1lo1up1lo1up9lo1up1lo1up1lo1up1lo1up1lo1up1lo1up1lo",
    "1up1lo1up1lo1up1lo1up1lo1up1lo1up1lo1up1lo1up1lo1up1lo1up1lo1up1lo1up1lo1up1lo1up1lo1up1lo",
    "1up1lo1up1lo1up1lo1up1lo1up1lo1up1lo1up1lo1up1lo1up1lo1up1lo1up1lo1up1lo1up1lo1up1lo1up1lo",
    "1up1lo1up1lo1up1lo1up1lo1up1lo1up1lo1up1lo1up1lo1up1lo1up1lo1up1lo1up1lo1up9lo8up6lo2xx6up",
    "2xx8lo8up8lo8up6lo2xx6up2xx8lo1xx1up1xx1up1xx1up1xx1up8lo8up14lo2xx8lo8up8lo8up8lo8up5lo",
    "1xx2lo5up1xx1lo3xx3lo1xx2lo5up3xx4lo2xx2lo4up4xx8lo5up5xx3lo1xx2lo5up3xx11sp1fo2ex2fo3xx",
    "2sc3xx8cl4xx1at3xx2se5fo1sp9xx2cl1xx2st7xx2cl3st21xx1sp5fo1xx10fo1xx1lo11xx2cl1lo13xx2cl",
    "1xx13lo51xx33ex17xx1up4xx1up2xx1lo3up2lo3up1lo1xx1up3xx5up6xx1up1xx1up1xx1up1xx4up1xx1lo",
    "4up1lo4le1lo2xx2lo2up5xx1up4lo4xx1lo17xx16up16lo3le1up1lo4le383xx4cl29xx2cl395xx26up26lo",
    "625xx6cl7xx14cl79xx2cl31xx10cl403xx22cl63xx4cl32xx2cl514xx48up48lo1up1lo3up2lo1up1lo1up1lo",
    "1up1lo4up1lo1up2lo1up8lo3up1lo1up1lo1up1lo1up1lo1up1lo1up1lo1up1lo1up1lo1up1lo1up1lo1up1lo",
    "1up1lo1up1lo1up1lo1up1lo1up1lo1up1lo1up1lo1up1lo1up1lo1up1lo1up1lo1up1lo1up1lo1up1lo1up1lo",
    "1up1lo1up1lo1up1lo1up1lo1up1lo1up1lo1up1lo1up1lo1up1lo1up1lo1up1lo1up1lo1up1lo1up1lo1up1lo",
    "1up1lo1up1lo1up1lo1up1lo1up1lo1up1lo1up1lo1up1lo1up2lo6xx1up1lo1up1lo3ex1up1lo5xx3st4xx",
    "38lo1xx1lo5xx1lo2xx56le7xx1le15xx1ex23le9xx7le1xx7le1xx7le1xx7le1xx7le1xx7le1xx7le1xx7le",
    "1xx32ex14cl14xx2cl2xx10cl4xx1st1le12xx1st5xx1cl16xx2st8cl419xx1sp1sc1st2xx3le10cl2xx8cl1xx",
    "3cl1xx9le6ex1xx5le2xx5le4xx86le2xx2ex2xx3le1xx90le1xx4le5xx43le1xx94le17xx32le48xx16le",
    "512xx6592le64xx22157le67xx46le1xx1st269le1xx2st16le10nu2le20xx1up1lo1up1lo1up1lo1up1lo1up",
    "1lo1up1lo1up1lo1up1lo1up1lo1up1lo1up1lo1up1lo1up1lo1up1lo1up1lo1up1lo1up1lo1up1lo1up1lo1up",
    "1lo1up1lo1up1lo1up1lo1le4ex1xx10ex1xx1le1up1lo1up1lo1up1lo1up1lo1up1lo1up1lo1up1lo1up1lo",
    "1up1lo1up1lo1up1lo1up1lo1up1lo1up3lo2ex80le2ex1xx1st3xx1st31xx9le2xx1up1lo1up1lo1up1lo1up",
    "1lo1up1lo1up1lo1up3lo1up1lo1up1lo1up1lo1up1lo1up1lo1up1lo1up1lo1up1lo1up1lo1up1lo1up1lo1up",
    "1lo1up1lo1up1lo1up1lo1up1lo1up1lo1up1lo1up1lo1up1lo1up1lo1up1lo1up1lo1up1lo1up1lo1up1lo1up",
    "1lo1up1lo1up1lo1up1lo1up10lo1up1lo1up1lo2up1lo1up1lo1up1lo1up1lo1up1lo1le2xx1up1lo1up1lo",
    "1le1up1lo1up3lo1up1lo1up1lo1up1lo1up1lo1up1lo1up1lo1up1lo1up1lo1up1lo1up1lo5up1lo5up1lo1up",
    "1lo1up1lo1up1lo1up1lo1up1lo1up1lo1up1lo4up1lo1up1lo2up1lo2xx1up1lo1xx1lo1xx1lo1up1lo1up1lo",
    "1up1lo1up21xx3lo1up1lo1le3lo7le1ex3le1ex4le1ex23le5ex4xx1ex19xx52le2xx2st8xx2ex50le18ex8xx",
    "2st10nu6xx18ex6le3xx1le1xx2le1ex10nu28le8ex1xx1st23le13ex12xx29le3xx4ex47le14ex7xx2st5xx",
    "1le10nu6xx5le1ex10le10nu5le1xx41le14ex9xx3le1ex8le2ex2xx10nu3xx3st23le3xx1le3ex50le1ex1le",
    "3ex2le2ex5le2ex1le1ex1le24xx3le2xx11le5ex2st3le2ex10xx6le2xx6le2xx6le9xx7le1xx7le1xx43lo",
    "1xx14lo6xx80lo35le8ex1st2ex2xx10nu6xx11172le12xx23le4xx49le8452xx366le2xx106le38xx7lo12xx",
    "5lo5xx1le1ex10le1xx13le1xx5le1xx1le1xx2le1xx2le1xx108le33xx363le2cl16xx64le2xx54le40xx12le",
    "4xx16ex2sc1st2sc2st2cl7xx16ex1xx2sc2xx16cl2xx2cl7xx2sc1at1xx2sc2st1sc6cl4xx1sc12xx5le1xx",
    "135le2xx1fo1xx1st6xx2cl2xx2sc1at1xx10nu2sc3xx1st1xx26up1cl1xx1cl3xx26lo1cl1xx1cl1xx2cl1st",
    "2cl1sc1xx56le2ex31le3xx6le2xx6le2xx6le2xx3le28xx3fo4xx12le1xx26le1xx19le1xx2le1xx15le2xx",
    "14le34xx123le69xx53le136xx1ex130xx29le3xx49le15xx1ex31xx32le13xx30le5xx38le5ex5xx30le2xx",
    "36le4xx8le1xx5le42xx40up40lo78le2xx10nu6xx36up4xx36lo4xx40le8xx52le12xx11up1xx15up1xx7up",
    "1xx2up1xx11lo1xx15lo1xx7lo1xx2lo3xx52le12xx311le9xx22le10xx8le24xx1lo2le3lo1xx42lo1xx9lo",
    "69xx6le2xx1le1xx44le1xx2le3xx1le2xx23le10xx23le9xx31le65xx19le1xx2le10xx22le10xx26le70xx",
    "56le6xx2le64xx1le3ex1xx2ex5xx4ex4le1xx3le1xx29le2xx3ex4xx1ex22xx2st8xx29le3xx29le35xx8le",
    "1xx28le2ex25xx54le10xx22le10xx19le13xx18le110xx73le55xx51up13xx51lo13xx36le4ex8xx10nu6xx",
    "10nu6le22up3xx5ex1xx1le22lo250xx42le1xx2ex3xx2le16xx3le55xx4ex29le10xx1le8xx22le11ex4xx5st",
    "22xx18le4ex4st38xx21le27xx23le9xx3ex53le15ex2st29xx10nu1ex2le2ex1le9xx4ex45le11ex2xx1nu4st",
    "1ex10xx1nu2xx25le7xx10nu6xx3ex36le14ex1xx10nu1xx3st1le2ex1le8xx35le1ex2xx1le9xx3ex48le14ex",
    "4le2st2xx4ex1st2ex10nu1le1xx1le1xx2st32xx18le1xx25le12ex2st1xx2st1xx1ex2le1ex62xx7le1xx1le",
    "1xx4le1xx15le1xx10le1st6xx47le12ex5xx10nu6xx4ex1xx8le2xx2le2xx22le1xx7le1xx2le1xx5le1xx2ex",
    "1le7ex2xx2ex2xx3ex2xx1le6xx1ex5xx5le2ex2xx7ex3xx5ex11xx10le1xx1le2xx1le1xx38le1xx1le9ex1xx",
    "1ex2xx1ex1xx4ex1xx5ex1le1ex1le2st11xx2ex29xx53le18ex4le2st3xx10nu4xx1ex3le30xx48le20ex2le",
    "1xx1le8xx10nu166xx47le7ex2xx9ex1xx2st5xx15st4le2ex34xx48le17ex2st1xx1le11xx10nu38xx43le",
    "13ex1le7xx10nu6xx20nu28xx27le2xx15ex4xx10nu2xx3st1xx7le185xx44le15ex101xx32up32lo10nu21xx",
    "8le2xx1le2xx8le1xx2le1xx24le6ex1xx2ex2xx4ex1le1ex1le2ex1st1xx1st9xx10nu70xx8le2xx39le7ex",
    "2xx7ex1le1xx1le1ex27xx1le10ex40le7ex1le4ex3xx2st3xx1ex8xx1le11ex46le16ex1xx2st1le18xx73le",
    "199xx33le15xx10nu6xx9le1xx37le8ex1xx8ex1le2st13xx10nu24xx30le2xx22ex1xx14ex73xx7le1xx2le",
    "1xx38le6ex3xx1ex1xx2ex1xx7ex1le1ex8xx10nu6xx6le1xx2le1xx32le5ex1xx2ex1xx5ex1le7xx10nu310xx",
    "19le4ex2st7xx2ex1le1ex13le1xx34le7ex3xx5ex2st11xx10nu1ex85xx1le79xx922le102xx111le17xx",
    "196le2636xx97le15xx1072le16fo1ex6le15ex10xx3995le5xx583le6841xx30le18ex10nu1734xx569le7xx",
    "31le1xx10nu4xx2st79le1xx10nu6xx30le2xx5ex1st10xx48le7ex2st7xx4le1st11xx10nu9xx21le5xx19le",
    "432xx45le1xx2st10nu198xx32up32lo24xx1st103xx75le4xx1ex1le55ex7xx4ex13le64xx2le1xx1le1ex",
    "11xx2ex14xx6136le8xx1238le41xx10le8935xx4le1xx7le1xx2le1xx291le15xx1le29xx3le2xx1le14xx4le",
    "8xx396le2308xx107le5xx13le3xx9le7xx10le3xx2ex1st4fo4172xx10nu518xx46ex2xx23ex542xx5ex3xx",
    "6ex8fo8ex2xx7ex30xx4ex148xx3ex443xx26up26lo26up7lo1xx18lo26up26lo1up1xx2up2xx1up2xx2up2xx",
    "4up1xx8up4lo1xx1lo1xx7lo1xx11lo26up26lo2up1xx4up2xx8up1xx7up1xx26lo2up1xx4up1xx5up1xx1up",
    "3xx7up1xx26lo26up26lo26up26lo26up26lo26up26lo26up26lo26up28lo2xx25up1xx25lo1xx6lo25up1xx",
    "25lo1xx6lo25up1xx25lo1xx6lo25up1xx25lo1xx6lo25up1xx25lo1xx6lo1up1lo2xx50nu512xx55ex4xx50ex",
    "8xx1ex14xx1ex3xx1st18xx5ex1xx15ex1104xx10lo1le20lo6xx6lo213xx7ex1xx17ex2xx7ex1xx2ex1xx5ex",
    "5xx62lo33xx1ex112xx45le3xx7ex7le2xx10nu4xx1le321xx30le1ex17xx44le4ex10nu470xx28le4ex10nu",
    "214xx30le2ex1le10nu485xx7le1xx4le1xx2le1xx15le1xx197le11xx7ex41xx34up34lo7ex1le4xx10nu",
    "1190xx4le1xx27le1xx2le1xx1le2xx1le1xx10le1xx4le1xx1le1xx1le6xx1le4xx1le1xx1le1xx1le1xx3le",
    "1xx2le1xx1le2xx1le1xx1le1xx1le1xx1le1xx1le1xx2le1xx1le2xx4le1xx7le1xx4le1xx4le1xx1le1xx",
    "10le1xx17le5xx3le1xx5le1xx17le628xx26up6xx26up6xx26up1260xx3cl1399xx10nu1030xx42720le32xx",
    "4154le6xx222le2xx5762le14xx7473le15xx622le2466xx542le1506xx4939le5xx4192le711761xx1fo30xx",
    "96ex128xx240ex196112xx"]

/-- The boundaries of sentences. -/
def sentenceBreak : BoundaryProperty where
  names := [
    ["at", "aterm"], ["cl", "close"], ["cr"], ["ex", "extend"], ["fo", "format"],
    ["le", "oletter"], ["lf"], ["lo", "lower"], ["nu", "numeric"], ["sc", "scontinue"],
    ["se", "sep"], ["sp"], ["st", "sterm"], ["up", "upper"]]
  table := Runs.decode sentenceBreakText

end BoundaryProperty

end JsonPath
