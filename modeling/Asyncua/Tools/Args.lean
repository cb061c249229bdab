import Asyncua.Python

/-!
# The common options of the command-line tools

Every tool of `tools.py` reads its options with `parse_args`. A URL without `://` is given the
scheme `opc.tcp`. The tools that work on a node (`uaread`, `uawrite`, `uahistoryread`, `uacall`,
`uageneratestructs`) exit when `--nodeid` and `--path` are both at their defaults, which
`_require_nodeid` tests by their values: `-n i=84` alone is refused like no option at all.

`get_node` then takes the node of `--nodeid` and, when `--path` is not empty, follows its
comma-separated browse names from there; from the root node `i=84` a first name `0:Root` is
skipped, so that a path may be written from the root. `uahistoryread` reads its times with
`str_to_datetime`, which tries three formats in turn.

What the client does with the node id and the browse path (`client.get_node`,
`node.get_child`), and `datetime.strptime`, are not among the sources: the model stops at the
arguments they are called with. `print_history` prints the values it reads in three columns of
widths 30 and 10; they stay under the header only while the timestamp and the status name fit.
-/

namespace Asyncua

/-- `ua.OPC_TCP_SCHEME`. -/
def opcTcpScheme : String := "opc.tcp"

/-- The options that `parse_args` and `get_node` read, as `add_common_args` declares them. -/
structure CommonArgs where
  url : String
  nodeid : String
  path : String
  deriving DecidableEq, Repr

/-- The defaults of `add_common_args(parser)`. -/
def CommonArgs.defaults : CommonArgs := ⟨"opc.tcp://localhost:4840", "i=84", ""⟩

/-! ### `parse_args` -/

/-- The URL `parse_args` leaves in `args.url`: a non-empty URL without `://` is given the scheme
`opc.tcp`. -/
def normalizeUrl (url : String) : String :=
  if url ≠ "" ∧ Py.contains url "://" = false then opcTcpScheme ++ "://" ++ url else url

/-- `_require_nodeid(parser, args)`: the error line it prints before exiting with status 1, when
`--nodeid` and `--path` hold their defaults. -/
def requireNodeid (prog : String) (args : CommonArgs) : Option String :=
  if args.nodeid = "i=84" ∧ args.path = "" then
    some (prog ++ ": error: A NodeId or BrowsePath is required")
  else none

/-- `parse_args(parser, requirenodeid)` once the parser has read the options: the options it
returns, or the error line of `_require_nodeid`. -/
def parseArgs (prog : String) (requirenodeid : Bool) (args : CommonArgs) :
    Except String CommonArgs :=
  let args := { args with url := normalizeUrl args.url }
  match if requirenodeid then requireNodeid prog args else none with
  | some err => .error err
  | none => .ok args

/-- The options of `_uasubscribe` once read: `parse_args` without `requirenodeid`, then the test
of `_require_nodeid` for data changes, or, for events, the server node `i=2253` in place of the
default node. -/
def uasubscribeArgs (prog eventtype : String) (args : CommonArgs) : Except String CommonArgs := do
  let args ← parseArgs prog false args
  if eventtype = "datachange" then
    match requireNodeid prog args with
    | some err => .error err
    | none => pure args
  else if args.nodeid = "i=84" ∧ args.path = "" then pure { args with nodeid := "i=2253" }
  else pure args

/-! ### `get_node` -/

/-- The browse path `get_node` passes to `node.get_child`, or `none` when `--path` is empty and
the node of `--nodeid` is returned. `atRoot` says whether that node is `ua.NodeId(84, 0)`. -/
def getNodePath (atRoot : Bool) (path : String) : Option (List String) :=
  if path = "" then none
  else
    let items := Py.split path ','
    some (if atRoot ∧ items.head? = some "0:Root" then items.tail else items)

/-! ### `uahistoryread`: `str_to_datetime` and `print_history` -/

/-- The formats `str_to_datetime` tries, in order. -/
def datetimeFormats : List String := ["%Y-%m-%d", "%Y-%m-%d %H:%M", "%Y-%m-%d %H:%M:%S"]

/-- `str_to_datetime(s, default)`, given `datetime.strptime` (`none` for `ValueError`) and the
current time: an absent or empty text gives the default, or else the current time; another text
the time the first format that reads it gives, or `None`. -/
def strToDatetime {α : Type} (strptime : String → String → Option α) (now : α)
    (s : Option String) (default : Option α) : Option α :=
  match s with
  | none | some "" => some (default.getD now)
  | some s => datetimeFormats.findSome? (strptime s)

/-- A line of `print_history`: `"{0:30} {1:10} {2}".format(timestamp, status, value)`. -/
def historyLine (timestamp status value : String) : String :=
  Py.ljust timestamp 30 ++ " " ++ Py.ljust status 10 ++ " " ++ value

/-- `print_history(o)`, for the rows `str(d.SourceTimestamp)`, `d.StatusCode.name` and the text
of `d.Value.Value`. -/
def printHistory (rows : List (String × String × String)) : List String :=
  historyLine "Source timestamp" "Status" "Value" :: rows.map fun r => historyLine r.1 r.2.1 r.2.2

end Asyncua
