import AnomalyWindows.Detector.Remote
import AnomalyWindows.Series.Sample

namespace AnomalyWindows

open Calendar

structure RangeQuery where
  selector : String
  start : Moment
  finish : Moment
  step : String

structure Tsdb where
  readUrl : String
  client : Client

namespace Tsdb

def withoutSlashes (url : String) : String :=
  String.ofList (url.toList.reverse.dropWhile (· == '/')).reverse

def make (readUrl : String) (timeout : Float) (headers : List (String × String)) : Tsdb :=
  ⟨withoutSlashes readUrl, { peer := .database, timeout, headers }⟩

def ofRecord (r : Record) : Checked Tsdb :=
  make
    <$> r.required "read_url" Data.readText
    <*> r.optional "timeout" Data.readFloat RemoteDetector.usualTimeout
    <*> r.optional "headers" Data.readTexts []

def request (t : Tsdb) (q : RangeQuery) : Request :=
  { Request.ofAddress "GET" (t.readUrl ++ "/api/v1/query_range") none with
    query :=
      [("query", q.selector), ("start", q.start.iso), ("end", q.finish.iso), ("step", q.step)] }

def readResponse (r : Response) : Except Fault (List Series.Sample) := do
  let r ← r.successful
  Series.ofAnswer (← r.data)

def queryRange (t : Tsdb) (q : RangeQuery) (n : Network) :
    Except Fault (List Series.Sample) × Tsdb × Network :=
  let (client, n) := t.client.ready n
  let t := { t with client }
  let (result, n) := client.send (t.request q) n
  (result.bind readResponse, t, n)

def close (t : Tsdb) (n : Network) : Tsdb × Network :=
  let (client, n) := t.client.close n
  ({ t with client }, n)

end Tsdb

end AnomalyWindows
