/-! Log rows. Each part of the library writes under a name of its own, and every row has a level. -/

namespace Gatehouse

/-- The parts that write log rows. -/
inductive Source where
  | settings
  | storage
  | session
  | client
  | guard
  | router
  | context
  | notices
  deriving DecidableEq, Repr

/-- The name that a part writes under. -/
def Source.name : Source → String
  | settings => "vaulthub.conf"
  | storage => "vaulthub.storage"
  | session => "vaulthub.session"
  | client => "vaulthub.client"
  | guard => "vaulthub.guard"
  | router => "vaulthub.router"
  | context => "vaulthub.context"
  | notices => "vaulthub.notify"

/-- How grave a log row is. -/
inductive Level where
  | debug
  | info
  | warning
  | error
  deriving DecidableEq, Repr

/-- The name of a level. -/
def Level.name : Level → String
  | debug => "DEBUG"
  | info => "INFO"
  | warning => "WARNING"
  | error => "ERROR"

/-- One row of the log. -/
structure LogRow where
  source : Source
  level : Level
  text : String
  deriving DecidableEq, Repr

/-- The kinds of notices for the user. -/
inductive NoticeKind where
  | error
  | warning
  | success
  deriving DecidableEq, Repr

/-- A message for the user. -/
structure Notice where
  kind : NoticeKind
  message : String
  deriving DecidableEq, Repr

/-- The log row of a notice, where nobody shows notices. A success is logged as information. -/
def Notice.row (n : Notice) : LogRow :=
  let level := match n.kind with
    | .error => Level.error
    | .warning => Level.warning
    | .success => Level.info
  ⟨.notices, level, n.message⟩

end Gatehouse
