import Mathlib
import Rsbtd.Settings.Input

/-!
# Names of the settings on the command line

A setting is named in camelCase by the schema and in snake_case on the command line;
`rsbtctl` accepts both spellings and prints the second.
-/

namespace Rsbtd.Ctl

/-- The case mappings of `char`, which are the ASCII ones on the ASCII letters. -/
structure Casing where
  to_uppercase : Char → List Char
  to_lowercase : Char → List Char
  upper_lower : ∀ c, c.isLower = true → to_uppercase c = [c.toUpper]
  lower_upper : ∀ c, c.isUpper = true → to_lowercase c = [c.toLower]
  /-- The underscore is no upper case of another character. -/
  upper_plain : ∀ c, c ≠ '_' → '_' ∉ to_uppercase c

/-- Letters outside ASCII are left as they are. -/
def Casing.ascii : Casing where
  to_uppercase c := [c.toUpper]
  to_lowercase c := [c.toLower]
  upper_lower _ _ := rfl
  lower_upper _ _ := rfl
  upper_plain c plain := by
    rw [List.mem_singleton]
    intro underscore
    by_cases lower : c.isLower = true
    · have upper : c.toUpper.isUpper = true := by
        rw [Char.isUpper_toUpper_eq_isAlpha, Char.isAlpha, lower, Bool.or_true]
      rw [← underscore] at upper
      cases upper
    · exact plain ((Char.toUpper_eq_of_not_isLower lower).symm.trans underscore.symm)

variable (casing : Casing)

/-- The loop of `to_camel`; `upper` is set by an underscore. -/
def camelFrom (upper : Bool) : List Char → List Char
  | [] => []
  | c :: rest =>
    if c = '_' then camelFrom true rest
    else if upper then casing.to_uppercase c ++ camelFrom false rest
    else c :: camelFrom false rest

def to_camel (name : String) : String := String.ofList (camelFrom casing false name.toList)

def snakeChars : List Char → List Char
  | [] => []
  | c :: rest =>
    if c.isUpper then '_' :: (casing.to_lowercase c ++ snakeChars rest) else c :: snakeChars rest

def to_snake (name : String) : String := String.ofList (snakeChars casing name.toList)

example : to_camel .ascii "socks5_udp_send_local_endpoint" = "socks5UdpSendLocalEndpoint" := by
  decide

example : to_snake .ascii "i2pInboundLength" = "i2p_inbound_length" := by decide

variable {Ref : Type}

/-- The field of the schema that a name on the command line stands for. -/
def findField (fields : List (String × Ref)) (name : String) : Except String (String × Ref) :=
  match fields.find? fun f => f.1 == to_camel casing name with
  | some field => .ok field
  | none => .error ("unknown setting: " ++ name)

/-- The settings that `settings get` asks the daemon for. -/
def selected (fields : List (String × Ref)) (names : List String) :
    Except String (List (String × Ref)) :=
  if names.isEmpty then .ok fields else names.mapM (findField casing fields)

/-- The names in front of the printed values. -/
def printed (fields : List (String × Ref)) : List String :=
  fields.map fun f => to_snake casing f.1

end Rsbtd.Ctl
