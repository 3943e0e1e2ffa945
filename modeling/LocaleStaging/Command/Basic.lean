import LocaleStaging.Storage.Path
import LocaleStaging.User

namespace LocaleStaging

inductive Command where
  | list (user : Option UserId)
  | sweep
  | drop (user : UserId)
  | decode (file : Path)
deriving DecidableEq, Repr

structure Call where
  settings : Option Path
  directory : Option Path
  command : Command
deriving DecidableEq, Repr

end LocaleStaging
