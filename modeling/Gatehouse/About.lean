/-! What this program says about itself. -/

namespace Gatehouse.About

/-- The facts about the program, by their names. -/
def facts : List (String × String) :=
  [("title", "vaulthub_client"),
    ("description", "Session and access-control gateway for the VaultHub secrets vault service."),
    ("version", "0.3.0"),
    ("copyright", "Copyright (c) 2025 VaultHub Contributors"),
    ("author", "VaultHub Contributors"),
    ("author_email", "dev@vaulthub.local"),
    ("license", "Apache-2.0"),
    ("url", "https://github.com/cuihe500/vaulthub")]

end Gatehouse.About
