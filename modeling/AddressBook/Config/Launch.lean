import AddressBook.Config.Settings

namespace AddressBook.Config

inductive Entry where
  | commandLine
  | server
  | asyncServer
  deriving DecidableEq, Repr

/-- The name of the settings that are used: the one the environment gives, or that of the profile
which it names. -/
def chosenSettings (env : Environment) : String :=
  (env.lookup "DJANGO_SETTINGS_MODULE").getD
    (Profile.ofName ((env.lookup "DJANGO_ENV").getD "development")).settingsName

def launched (entry : Entry) (arguments : List String) : List String :=
  match entry with
  | .commandLine => arguments
  | .server => ["wsgi"]
  | .asyncServer => ["asgi"]

end AddressBook.Config
