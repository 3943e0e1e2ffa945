import LocaleStaging.Text.Quoted

namespace LocaleStaging

inductive IoFault where
  | notFound
  | alreadyExists
  | notADirectory
  | isADirectory
  | nameTooLong
  | zeroInName
  | notText
deriving DecidableEq, Repr

namespace IoFault

def code? : IoFault → Option Nat
  | notFound => some 2
  | alreadyExists => some 17
  | notADirectory => some 20
  | isADirectory => some 21
  | nameTooLong => some 36
  | zeroInName => none
  | notText => none

def kind : IoFault → String
  | notFound => "NotFound"
  | alreadyExists => "AlreadyExists"
  | notADirectory => "NotADirectory"
  | isADirectory => "IsADirectory"
  | nameTooLong => "InvalidFilename"
  | zeroInName => "InvalidInput"
  | notText => "InvalidData"

def description : IoFault → String
  | notFound => "No such file or directory"
  | alreadyExists => "File exists"
  | notADirectory => "Not a directory"
  | isADirectory => "Is a directory"
  | nameTooLong => "File name too long"
  | zeroInName => "file name contained an unexpected NUL byte"
  | notText => "stream did not contain valid UTF-8"

def message (fault : IoFault) : String :=
  match fault.code? with
  | some code => fault.description ++ " (os error " ++ toString code ++ ")"
  | none => fault.description

def details (fault : IoFault) : String :=
  let tail := "kind: " ++ fault.kind ++ ", message: " ++ Quoted.text fault.description ++ " \x7d"
  match fault.code? with
  | some code => "Os \x7b code: " ++ toString code ++ ", " ++ tail
  | none => "Error \x7b " ++ tail

end IoFault
end LocaleStaging
