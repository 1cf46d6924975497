import RockYou.Library.Machine
import RockYou.Library.Loop
import RockYou.Library.DocumentStore
import RockYou.Library.Roster
import RockYou.Library.Ranking
import RockYou.Cloud.Document
import RockYou.Cloud.Path
import RockYou.Firmware.Safety.ClosedLock
import RockYou.Firmware.Safety.GearInterlock
import RockYou.Firmware.Safety.NoiseUnlock
import RockYou.Firmware.Safety.TheftDetection
import RockYou.Firmware.Safety.TheftAlarm
import RockYou.Firmware.Safety.CloudState
import RockYou.Firmware.Safety.ReportedState
import RockYou.Firmware.Safety.JsonBuffer
import RockYou.Firmware.Safety.PublishedPosition
import RockYou.Firmware.Safety.TrackingAccuracy
import RockYou.App.Safety.ReadIsolation
import RockYou.App.Safety.SelectedBike
import RockYou.App.Safety.WriteIsolation
import RockYou.App.Safety.SessionIdentity
import RockYou.App.Safety.SignUpAccounts
import RockYou.App.Safety.Registration
import RockYou.App.Safety.BluetoothReadiness
import RockYou.App.Safety.ScanList
import RockYou.App.Safety.TheftListing
import RockYou.App.Safety.AlarmAlignment
import RockYou.App.Safety.ListRefresh
import RockYou.App.Safety.CellIndex
import RockYou.System.Dismissal
import RockYou.System.StaleAlarm
import RockYou.System.Schema
import RockYou.System.CommandDelivery
import RockYou.System.CommandOrder
import RockYou.System.TapToList
import RockYou.System.Screens
import RockYou.System.Origins
import RockYou.App.Safety.SignUpForms
import RockYou.App.Safety.SessionProfile
import RockYou.App.Safety.LoginAccess
import RockYou.GPS.Safety.Validity
import RockYou.GPS.Safety.Publication
import RockYou.GPS.Safety.Position
import RockYou.GPS.Safety.RoundTrip
import RockYou.GPS.Safety.Report
import RockYou.GPS.Safety.Custom
