/- The address under which an avatar can be shown. -/
namespace SessionGate

structure AvatarSettings where
  baseUrl : String
  defaultAvatar : String
  deriving DecidableEq, Repr

def AvatarSettings.resolve (settings : AvatarSettings) (raw : String) : String :=
  if raw.startsWith "http://" || raw.startsWith "https://" then raw
  else if raw = "" then settings.defaultAvatar
  else settings.baseUrl ++ raw

end SessionGate
