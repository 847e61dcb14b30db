import AddressBook.Config.LogLine

namespace AddressBook.Config

/-- How many workers there are unless the environment says: two for each processor and one more, but
at most ten. -/
def defaultWorkers (processors : Int) : Int := min (processors * 2 + 1) 10

/-- The variables of the environment are taken as they are, without following references. -/
def serverWorkers (env : Environment) (processors : Int) : Except Failure Int :=
  match env.lookup "GUNICORN_WORKERS" with
  | some value => Environment.integerOf value
  | none => .ok (defaultWorkers processors)

def serverSettings (env : Environment) (processors : Int) : Except Failure Fields :=
  (serverWorkers env processors).map fun workers =>
    [("workers", .int workers), ("worker_class", .string "sync"), ("timeout", .int 60),
     ("graceful_timeout", .int 30), ("keepalive", .int 5), ("max_requests", .int 1000),
     ("max_requests_jitter", .int 50), ("preload_app", .bool true),
     ("loglevel", .string (Text.lower ((env.lookup "LOG_LEVEL").getD "info"))),
     ("errorlog", .string "-"), ("accesslog", .string "-"),
     ("access_log_format", .string "%(h)s \"%(r)s\" %(s)s %(b)s %(M)sms \"%(a)s\"")]

def serverEventName (access : Bool) (event : String) : String :=
  let lowered := (Text.lower event).toList
  let starts (word : String) : Bool := word.toList.isPrefixOf lowered
  if access then "gunicorn.request_handling"
  else if ["starting", "listening", "using", "booting"].any starts then "gunicorn.booting"
  else if starts "handling signal" then "gunicorn.signal_handling"
  else event

/-- An event of the server under a name of its own, what happened being the message. Other events
stay as they are. -/
def nameServerEvent (fields : Fields) : Fields :=
  match fields.get? "logger", fields.get? "event" with
  | some (.string logger), some (.string event) =>
    if logger = "gunicorn.error" ∨ logger = "gunicorn.access" then
      (fields.put "message" (.string event)).put "event"
        (.string (serverEventName (logger = "gunicorn.access") event))
    else fields
  | _, _ => fields

def serverLine (input : LogInput) : Except Failure String :=
  match input.text with
  | .error failure => .error failure
  | .ok message =>
    Renderer.logfmtLine (nameServerEvent
      [("event", .string message), ("level", .string input.levelName),
       ("logger", .string input.logger), ("timestamp", timeMark)])

end AddressBook.Config
